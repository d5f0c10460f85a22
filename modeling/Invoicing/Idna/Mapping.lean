import Invoicing.Text.Table

/-!
# The IDNA mapping table

Before a domain name is checked and encoded, each of its characters is looked up in the
UTS #46 mapping table (Unicode 15.1), read with the choices web browsers make: deviation
characters (the sharp s, the final sigma and the two joiners) stay as they are, and the
characters that the STD3 rules would refuse count as valid, or are mapped when they have a
mapping.

The table is kept as text, one entry per word, each a hexadecimal code point, a colon and a rule
that holds from that code point up to the next entry:
* `V` valid, `X` disallowed, `I` ignored (dropped from the name);
* `M` and comma-separated hexadecimal code points: every code point becomes that text;
* `S` and a signed hexadecimal offset: every code point becomes the one that far away;
* `A` and an offset: code points at an even distance from the entry move by the offset, the
  others are valid (runs of capital and small letters that alternate).
-/

namespace Invoicing

namespace Idna

/-- What the mapping does with one character. -/
inductive Status where
  | valid
  | disallowed
  | ignored
  | mapped (image : List Char)
  deriving DecidableEq, Repr

/-- The rule of one entry of the table (see the module comment). -/
inductive Rule where
  | valid
  | disallowed
  | ignored
  | constant (image : List Char)
  | shift (offset : Int)
  | alternate (offset : Int)
  deriving DecidableEq, Repr

/-- An entry of the table: its rule holds from `start` up to the next entry. -/
structure Entry where
  start : Nat
  rule : Rule
  deriving DecidableEq, Repr

/-- The table as text, in code point order. -/
def rows : List String := [
  "0:V 41:S20 5B:V 80:X A0:S-80 A1:V A8:M20,308 A9:V AA:S-49 AB:V AD:I AE:V AF:M20,304 B0:V",
  "B2:S-80 B4:M20,301 B5:S307 B6:V B8:M20,327 B9:S-88 BA:S-4B BB:V BC:M31,2044,34",
  "BD:M31,2044,32 BE:M33,2044,34 BF:V C0:S20 D7:V D8:S20 DF:V 100:A1 12F:V 130:M69,307",
  "131:V 132:M69,6A 134:A1 137:V 139:A1 13E:V 13F:M6C,B7 141:A1 148:V 149:M2BC,6E 14A:A1",
  "177:V 178:S-79 179:A1 17E:V 17F:S-10C 180:V 181:SD2 182:A1 185:V 186:SCE 187:S1 188:V",
  "189:SCD 18B:S1 18C:V 18E:S4F 18F:SCA 190:SCB 191:S1 192:V 193:SCD 194:SCF 195:V 196:SD3",
  "197:SD1 198:S1 199:V 19C:SD3 19D:SD5 19E:V 19F:SD6 1A0:A1 1A5:V 1A6:SDA 1A7:S1 1A8:V",
  "1A9:SDA 1AA:V 1AC:S1 1AD:V 1AE:SDA 1AF:S1 1B0:V 1B1:SD9 1B3:A1 1B6:V 1B7:SDB 1B8:S1",
  "1B9:V 1BC:S1 1BD:V 1C4:M64,17E 1C7:M6C,6A 1CA:M6E,6A 1CD:A1 1DC:V 1DE:A1 1EF:V",
  "1F1:M64,7A 1F4:S1 1F5:V 1F6:S-61 1F7:S-38 1F8:A1 21F:V 220:S-82 221:V 222:A1 233:V",
  "23A:S2A2B 23B:S1 23C:V 23D:S-A3 23E:S2A28 23F:V 241:S1 242:V 243:S-C3 244:S45 245:S47",
  "246:A1 24F:V 2B0:S-248 2B1:S-4B 2B2:S-248 2B3:S-241 2B4:S-3B 2B5:S-3A 2B6:S-35 2B7:S-240",
  "2B8:S-23F 2B9:V 2D8:M20,306 2D9:M20,307 2DA:M20,30A 2DB:M20,328 2DC:M20,303 2DD:M20,30B",
  "2DE:V 2E0:S-7D 2E1:S-275 2E2:S-26F 2E3:S-26B 2E4:S-4F 2E5:V 340:S-40 342:V 343:S-30",
  "344:M308,301 345:S74 346:V 34F:I 350:V 370:A1 373:V 374:S-BB 375:V 376:S1 377:V 378:X",
  "37A:M20,3B9 37B:V 37E:S-343 37F:S74 380:X 384:M20,301 385:M20,308,301 386:S26 387:S-2D0",
  "388:S25 38B:X 38C:S40 38D:X 38E:S3F 390:V 391:S20 3A2:X 3A3:S20 3AC:V 3CF:S8 3D0:S-1E",
  "3D1:S-19 3D2:S-D 3D3:S-6 3D4:S-9 3D5:S-F 3D6:S-16 3D7:V 3D8:A1 3EF:V 3F0:S-36 3F1:S-30",
  "3F2:S-2F 3F3:V 3F4:S-3C 3F5:S-40 3F6:V 3F7:S1 3F8:V 3F9:S-36 3FA:S1 3FB:V 3FD:S-82",
  "400:S50 410:S20 430:V 460:A1 481:V 48A:A1 4BF:V 4C0:X 4C1:A1 4CE:V 4D0:A1 52F:V 530:X",
  "531:S30 557:X 559:V 587:M565,582 588:V 58B:X 58D:V 590:X 591:V 5C8:X 5D0:V 5EB:X 5EF:V",
  "5F5:X 606:V 61C:X 61D:V 675:M627,674 676:M648,674 677:M6C7,674 678:M64A,674 679:V 6DD:X",
  "6DE:V 70E:X 710:V 74B:X 74D:V 7B2:X 7C0:V 7FB:X 7FD:V 82E:X 830:V 83F:X 840:V 85C:X",
  "85E:V 85F:X 860:V 86B:X 870:V 88F:X 898:V 8E2:X 8E3:V 958:M915,93C 959:M916,93C",
  "95A:M917,93C 95B:M91C,93C 95C:M921,93C 95D:M922,93C 95E:M92B,93C 95F:M92F,93C 960:V",
  "984:X 985:V 98D:X 98F:V 991:X 993:V 9A9:X 9AA:V 9B1:X 9B2:V 9B3:X 9B6:V 9BA:X 9BC:V",
  "9C5:X 9C7:V 9C9:X 9CB:V 9CF:X 9D7:V 9D8:X 9DC:M9A1,9BC 9DD:M9A2,9BC 9DE:X 9DF:M9AF,9BC",
  "9E0:V 9E4:X 9E6:V 9FF:X A01:V A04:X A05:V A0B:X A0F:V A11:X A13:V A29:X A2A:V A31:X",
  "A32:V A33:MA32,A3C A34:X A35:V A36:MA38,A3C A37:X A38:V A3A:X A3C:V A3D:X A3E:V A43:X",
  "A47:V A49:X A4B:V A4E:X A51:V A52:X A59:MA16,A3C A5A:MA17,A3C A5B:MA1C,A3C A5C:V A5D:X",
  "A5E:MA2B,A3C A5F:X A66:V A77:X A81:V A84:X A85:V A8E:X A8F:V A92:X A93:V AA9:X AAA:V",
  "AB1:X AB2:V AB4:X AB5:V ABA:X ABC:V AC6:X AC7:V ACA:X ACB:V ACE:X AD0:V AD1:X AE0:V",
  "AE4:X AE6:V AF2:X AF9:V B00:X B01:V B04:X B05:V B0D:X B0F:V B11:X B13:V B29:X B2A:V",
  "B31:X B32:V B34:X B35:V B3A:X B3C:V B45:X B47:V B49:X B4B:V B4E:X B55:V B58:X",
  "B5C:MB21,B3C B5D:MB22,B3C B5E:X B5F:V B64:X B66:V B78:X B82:V B84:X B85:V B8B:X B8E:V",
  "B91:X B92:V B96:X B99:V B9B:X B9C:V B9D:X B9E:V BA0:X BA3:V BA5:X BA8:V BAB:X BAE:V",
  "BBA:X BBE:V BC3:X BC6:V BC9:X BCA:V BCE:X BD0:V BD1:X BD7:V BD8:X BE6:V BFB:X C00:V",
  "C0D:X C0E:V C11:X C12:V C29:X C2A:V C3A:X C3C:V C45:X C46:V C49:X C4A:V C4E:X C55:V",
  "C57:X C58:V C5B:X C5D:V C5E:X C60:V C64:X C66:V C70:X C77:V C8D:X C8E:V C91:X C92:V",
  "CA9:X CAA:V CB4:X CB5:V CBA:X CBC:V CC5:X CC6:V CC9:X CCA:V CCE:X CD5:V CD7:X CDD:V",
  "CDF:X CE0:V CE4:X CE6:V CF0:X CF1:V CF4:X D00:V D0D:X D0E:V D11:X D12:V D45:X D46:V",
  "D49:X D4A:V D50:X D54:V D64:X D66:V D80:X D81:V D84:X D85:V D97:X D9A:V DB2:X DB3:V",
  "DBC:X DBD:V DBE:X DC0:V DC7:X DCA:V DCB:X DCF:V DD5:X DD6:V DD7:X DD8:V DE0:X DE6:V",
  "DF0:X DF2:V DF5:X E01:V E33:ME4D,E32 E34:V E3B:X E3F:V E5C:X E81:V E83:X E84:V E85:X",
  "E86:V E8B:X E8C:V EA4:X EA5:V EA6:X EA7:V EB3:MECD,EB2 EB4:V EBE:X EC0:V EC5:X EC6:V",
  "EC7:X EC8:V ECF:X ED0:V EDA:X EDC:MEAB,E99 EDD:MEAB,EA1 EDE:V EE0:X F00:V F0C:S-1 F0D:V",
  "F43:MF42,FB7 F44:V F48:X F49:V F4D:MF4C,FB7 F4E:V F52:MF51,FB7 F53:V F57:MF56,FB7 F58:V",
  "F5C:MF5B,FB7 F5D:V F69:MF40,FB5 F6A:V F6D:X F71:V F73:MF71,F72 F74:V F75:MF71,F74",
  "F76:MFB2,F80 F77:MFB2,F71,F80 F78:MFB3,F80 F79:MFB3,F71,F80 F7A:V F81:MF71,F80 F82:V",
  "F93:MF92,FB7 F94:V F98:X F99:V F9D:MF9C,FB7 F9E:V FA2:MFA1,FB7 FA3:V FA7:MFA6,FB7 FA8:V",
  "FAC:MFAB,FB7 FAD:V FB9:MF90,FB5 FBA:V FBD:X FBE:V FCD:X FCE:V FDB:X 1000:V 10A0:X",
  "10C7:S1C60 10C8:X 10CD:S1C60 10CE:X 10D0:V 10FC:S-20 10FD:V 115F:X 1161:V 1249:X 124A:V",
  "124E:X 1250:V 1257:X 1258:V 1259:X 125A:V 125E:X 1260:V 1289:X 128A:V 128E:X 1290:V",
  "12B1:X 12B2:V 12B6:X 12B8:V 12BF:X 12C0:V 12C1:X 12C2:V 12C6:X 12C8:V 12D7:X 12D8:V",
  "1311:X 1312:V 1316:X 1318:V 135B:X 135D:V 137D:X 1380:V 139A:X 13A0:V 13F6:X 13F8:S-8",
  "13FE:X 1400:V 1680:X 1681:V 169D:X 16A0:V 16F9:X 1700:V 1716:X 171F:V 1737:X 1740:V",
  "1754:X 1760:V 176D:X 176E:V 1771:X 1772:V 1774:X 1780:V 17B4:X 17B6:V 17DE:X 17E0:V",
  "17EA:X 17F0:V 17FA:X 1800:V 1806:X 1807:V 180B:I 180E:X 180F:I 1810:V 181A:X 1820:V",
  "1879:X 1880:V 18AB:X 18B0:V 18F6:X 1900:V 191F:X 1920:V 192C:X 1930:V 193C:X 1940:V",
  "1941:X 1944:V 196E:X 1970:V 1975:X 1980:V 19AC:X 19B0:V 19CA:X 19D0:V 19DB:X 19DE:V",
  "1A1C:X 1A1E:V 1A5F:X 1A60:V 1A7D:X 1A7F:V 1A8A:X 1A90:V 1A9A:X 1AA0:V 1AAE:X 1AB0:V",
  "1ACF:X 1B00:V 1B4D:X 1B50:V 1B7F:X 1B80:V 1BF4:X 1BFC:V 1C38:X 1C3B:V 1C4A:X 1C4D:V",
  "1C80:S-184E 1C81:S-184D 1C82:S-1844 1C83:S-1842 1C85:S-1843 1C86:S-183C 1C87:S-1824",
  "1C88:S89C3 1C89:X 1C90:S-BC0 1CBB:X 1CBD:S-BC0 1CC0:V 1CC8:X 1CD0:V 1CFB:X 1D00:V",
  "1D2C:S-1CCB 1D2D:S-1C47 1D2E:A-1CCC 1D31:S-1CCC 1D32:S-1B55 1D33:S-1CCC 1D3B:V",
  "1D3C:S-1CCD 1D3D:S-1B1A 1D3E:S-1CCE 1D3F:S-1CCD 1D40:S-1CCC 1D42:S-1CCB 1D43:S-1CE2",
  "1D44:S-1AF4 1D46:S-44 1D47:S-1CE5 1D48:S-1CE4 1D4A:S-1AF1 1D4B:S-1AF0 1D4D:S-1CE6 1D4E:V",
  "1D4F:S-1CE4 1D50:S-1CE3 1D51:S-1C06 1D52:S-1CE3 1D53:S-1AFF 1D54:S-3E 1D56:S-1CE6",
  "1D57:S-1CE3 1D59:S-3C 1D5A:S-1AEB 1D5B:S-1CE5 1D5C:S-37 1D5D:S-19AB 1D60:S-199A",
  "1D62:S-1CF9 1D63:S-1CF1 1D64:S-1CEF 1D66:S-19B4 1D68:S-19A7 1D69:S-19A3 1D6B:V",
  "1D78:S-193B 1D79:V 1D9B:S-1B49 1D9C:S-1D39 1D9D:S-1B48 1D9E:S-1CAE 1D9F:S-1B43",
  "1DA0:S-1D3A 1DA1:S-1B42 1DA2:S-1B41 1DA3:S-1B3E 1DA4:S-1B3C 1DA7:S-2C 1DA8:S-1B0B",
  "1DA9:S-1B3C 1DAA:S-25 1DAB:S-1B0C 1DAC:S-1B3B 1DAD:S-1B3D 1DAE:S-1B3C 1DB2:S-1B3A",
  "1DB3:S-1B31 1DB5:S-1C0A 1DB6:S-1B2D 1DB8:S-9C 1DB9:S-1B2E 1DBB:S-1D41 1DBC:S-1B2C",
  "1DBF:S-1A07 1DC0:V 1E00:A1 1E95:V 1E9A:M61,2BE 1E9B:S-3A 1E9C:V 1E9E:S-1DBF 1E9F:V",
  "1EA0:A1 1EFF:V 1F08:S-8 1F10:V 1F16:X 1F18:S-8 1F1E:X 1F20:V 1F28:S-8 1F30:V 1F38:S-8",
  "1F40:V 1F46:X 1F48:S-8 1F4E:X 1F50:V 1F58:X 1F59:S-8 1F5A:X 1F5B:S-8 1F5C:X 1F5D:S-8",
  "1F5E:X 1F5F:S-8 1F60:V 1F68:S-8 1F70:V 1F71:S-1BC5 1F72:V 1F73:S-1BC6 1F74:V 1F75:S-1BC7",
  "1F76:V 1F77:S-1BC8 1F78:V 1F79:S-1BAD 1F7A:V 1F7B:S-1BAE 1F7C:V 1F7D:S-1BAF 1F7E:X",
  "1F80:M1F00,3B9 1F81:M1F01,3B9 1F82:M1F02,3B9 1F83:M1F03,3B9 1F84:M1F04,3B9",
  "1F85:M1F05,3B9 1F86:M1F06,3B9 1F87:M1F07,3B9 1F88:M1F00,3B9 1F89:M1F01,3B9",
  "1F8A:M1F02,3B9 1F8B:M1F03,3B9 1F8C:M1F04,3B9 1F8D:M1F05,3B9 1F8E:M1F06,3B9",
  "1F8F:M1F07,3B9 1F90:M1F20,3B9 1F91:M1F21,3B9 1F92:M1F22,3B9 1F93:M1F23,3B9",
  "1F94:M1F24,3B9 1F95:M1F25,3B9 1F96:M1F26,3B9 1F97:M1F27,3B9 1F98:M1F20,3B9",
  "1F99:M1F21,3B9 1F9A:M1F22,3B9 1F9B:M1F23,3B9 1F9C:M1F24,3B9 1F9D:M1F25,3B9",
  "1F9E:M1F26,3B9 1F9F:M1F27,3B9 1FA0:M1F60,3B9 1FA1:M1F61,3B9 1FA2:M1F62,3B9",
  "1FA3:M1F63,3B9 1FA4:M1F64,3B9 1FA5:M1F65,3B9 1FA6:M1F66,3B9 1FA7:M1F67,3B9",
  "1FA8:M1F60,3B9 1FA9:M1F61,3B9 1FAA:M1F62,3B9 1FAB:M1F63,3B9 1FAC:M1F64,3B9",
  "1FAD:M1F65,3B9 1FAE:M1F66,3B9 1FAF:M1F67,3B9 1FB0:V 1FB2:M1F70,3B9 1FB3:M3B1,3B9",
  "1FB4:M3AC,3B9 1FB5:X 1FB6:V 1FB7:M1FB6,3B9 1FB8:S-8 1FBA:S-4A 1FBB:S-1C0F 1FBC:M3B1,3B9",
  "1FBD:M20,313 1FBE:S-1C05 1FBF:M20,313 1FC0:M20,342 1FC1:M20,308,342 1FC2:M1F74,3B9",
  "1FC3:M3B7,3B9 1FC4:M3AE,3B9 1FC5:X 1FC6:V 1FC7:M1FC6,3B9 1FC8:S-56 1FC9:S-1C1C 1FCA:S-56",
  "1FCB:S-1C1D 1FCC:M3B7,3B9 1FCD:M20,313,300 1FCE:M20,313,301 1FCF:M20,313,342 1FD0:V",
  "1FD3:S-1C43 1FD4:X 1FD6:V 1FD8:S-8 1FDA:S-64 1FDB:S-1C2C 1FDC:X 1FDD:M20,314,300",
  "1FDE:M20,314,301 1FDF:M20,314,342 1FE0:V 1FE3:S-1C33 1FE4:V 1FE8:S-8 1FEA:S-70",
  "1FEB:S-1C1E 1FEC:S-7 1FED:M20,308,300 1FEE:M20,308,301 1FEF:S-1F8F 1FF0:X 1FF2:M1F7C,3B9",
  "1FF3:M3C9,3B9 1FF4:M3CE,3B9 1FF5:X 1FF6:V 1FF7:M1FF6,3B9 1FF8:S-80 1FF9:S-1C2D 1FFA:S-7E",
  "1FFB:S-1C2D 1FFC:M3C9,3B9 1FFD:M20,301 1FFE:M20,314 1FFF:X 2000:S-1FE0 2001:S-1FE1",
  "2002:S-1FE2 2003:S-1FE3 2004:S-1FE4 2005:S-1FE5 2006:S-1FE6 2007:S-1FE7 2008:S-1FE8",
  "2009:S-1FE9 200A:S-1FEA 200B:I 200C:V 200E:X 2010:V 2011:S-1 2012:V 2017:M20,333 2018:V",
  "2024:X 2027:V 2028:X 202F:S-200F 2030:V 2033:M2032,2032 2034:M2032,2032,2032 2035:V",
  "2036:M2035,2035 2037:M2035,2035,2035 2038:V 203C:M21,21 203D:V 203E:M20,305 203F:V",
  "2047:M3F,3F 2048:M3F,21 2049:M21,3F 204A:V 2057:M2032,2032,2032,2032 2058:V 205F:S-203F",
  "2060:I 2061:X 2064:I 2065:X 2070:S-2040 2071:S-2008 2072:X 2074:S-2040 207A:S-204F",
  "207B:S197 207C:S-203F 207D:S-2055 207F:S-2011 2080:S-2050 208A:S-205F 208B:S187",
  "208C:S-204F 208D:S-2065 208F:X 2090:S-202F 2091:S-202C 2092:S-2023 2093:S-201B",
  "2094:S-1E3B 2095:S-202D 2096:S-202B 209A:S-202A 209B:S-2028 209D:X 20A0:V 20A8:M72,73",
  "20A9:V 20C1:X 20D0:V 20F1:X 2100:M61,2F,63 2101:M61,2F,73 2102:S-209F 2103:MB0,63 2104:V",
  "2105:M63,2F,6F 2106:M63,2F,75 2107:S-1EAC 2108:V 2109:MB0,66 210A:S-20A3 210C:S-20A4",
  "210D:S-20A5 210E:S-20A6 210F:S-1FE8 2110:S-20A7 2111:S-20A8 2112:S-20A6 2113:A-20A7",
  "2116:M6E,6F 2117:V 2119:S-20A9 211C:S-20AA 211D:S-20AB 211E:V 2120:M73,6D 2121:M74,65,6C",
  "2122:M74,6D 2123:V 2124:S-20AA 2125:V 2126:S-1D5D 2127:V 2128:S-20AE 2129:V 212A:S-20BF",
  "212B:S-2046 212C:S-20CA 212E:V 212F:S-20CA 2130:S-20CB 2132:X 2133:S-20C6 2134:S-20C5",
  "2135:S-1B65 2139:S-20D0 213A:V 213B:M66,61,78 213C:S-1D7C 213D:S-1D8A 213E:S-1D8B",
  "213F:S-1D7F 2140:SD1 2141:V 2145:S-20E1 2146:S-20E2 2148:S-20DF 214A:V 2150:M31,2044,37",
  "2151:M31,2044,39 2152:M31,2044,31,30 2153:M31,2044,33 2154:M32,2044,33 2155:M31,2044,35",
  "2156:M32,2044,35 2157:M33,2044,35 2158:M34,2044,35 2159:M31,2044,36 215A:M35,2044,36",
  "215B:M31,2044,38 215C:M33,2044,38 215D:M35,2044,38 215E:M37,2044,38 215F:M31,2044",
  "2160:S-20F7 2161:M69,69 2162:M69,69,69 2163:M69,76 2164:S-20EE 2165:M76,69",
  "2166:M76,69,69 2167:M76,69,69,69 2168:M69,78 2169:S-20F1 216A:M78,69 216B:M78,69,69",
  "216C:S-2100 216D:S-210A 216F:S-2102 2170:S-2107 2171:M69,69 2172:M69,69,69 2173:M69,76",
  "2174:S-20FE 2175:M76,69 2176:M76,69,69 2177:M76,69,69,69 2178:M69,78 2179:S-2101",
  "217A:M78,69 217B:M78,69,69 217C:S-2110 217D:S-211A 217F:S-2112 2180:V 2183:X 2184:V",
  "2189:M30,2044,33 218A:V 218C:X 2190:V 222C:M222B,222B 222D:M222B,222B,222B 222E:V",
  "222F:M222E,222E 2230:M222E,222E,222E 2231:V 2329:SCDF 232B:V 2427:X 2440:V 244B:X",
  "2460:S-242F 2469:M31,30 246A:M31,31 246B:M31,32 246C:M31,33 246D:M31,34 246E:M31,35",
  "246F:M31,36 2470:M31,37 2471:M31,38 2472:M31,39 2473:M32,30 2474:M28,31,29",
  "2475:M28,32,29 2476:M28,33,29 2477:M28,34,29 2478:M28,35,29 2479:M28,36,29",
  "247A:M28,37,29 247B:M28,38,29 247C:M28,39,29 247D:M28,31,30,29 247E:M28,31,31,29",
  "247F:M28,31,32,29 2480:M28,31,33,29 2481:M28,31,34,29 2482:M28,31,35,29",
  "2483:M28,31,36,29 2484:M28,31,37,29 2485:M28,31,38,29 2486:M28,31,39,29",
  "2487:M28,32,30,29 2488:X 249C:M28,61,29 249D:M28,62,29 249E:M28,63,29 249F:M28,64,29",
  "24A0:M28,65,29 24A1:M28,66,29 24A2:M28,67,29 24A3:M28,68,29 24A4:M28,69,29",
  "24A5:M28,6A,29 24A6:M28,6B,29 24A7:M28,6C,29 24A8:M28,6D,29 24A9:M28,6E,29",
  "24AA:M28,6F,29 24AB:M28,70,29 24AC:M28,71,29 24AD:M28,72,29 24AE:M28,73,29",
  "24AF:M28,74,29 24B0:M28,75,29 24B1:M28,76,29 24B2:M28,77,29 24B3:M28,78,29",
  "24B4:M28,79,29 24B5:M28,7A,29 24B6:S-2455 24D0:S-246F 24EA:S-24BA 24EB:V",
  "2A0C:M222B,222B,222B,222B 2A0D:V 2A74:M3A,3A,3D 2A75:M3D,3D 2A76:M3D,3D,3D 2A77:V",
  "2ADC:M2ADD,338 2ADD:V 2B74:X 2B76:V 2B96:X 2B97:V 2C00:S30 2C30:V 2C60:S1 2C61:V",
  "2C62:S-29F7 2C63:S-EE6 2C64:S-29E7 2C65:V 2C67:A1 2C6C:V 2C6D:S-2A1C 2C6E:S-29FD",
  "2C6F:S-2A1F 2C70:S-2A1E 2C71:V 2C72:S1 2C73:V 2C75:S1 2C76:V 2C7C:S-2C12 2C7D:S-2C07",
  "2C7E:S-2A3F 2C80:A1 2CE3:V 2CEB:A1 2CEE:V 2CF2:S1 2CF3:V 2CF4:X 2CF9:V 2D26:X 2D27:V",
  "2D28:X 2D2D:V 2D2E:X 2D30:V 2D68:X 2D6F:S-E 2D70:V 2D71:X 2D7F:V 2D97:X 2DA0:V 2DA7:X",
  "2DA8:V 2DAF:X 2DB0:V 2DB7:X 2DB8:V 2DBF:X 2DC0:V 2DC7:X 2DC8:V 2DCF:X 2DD0:V 2DD7:X",
  "2DD8:V 2DDF:X 2DE0:V 2E5E:X 2E80:V 2E9A:X 2E9B:V 2E9F:S3D2E 2EA0:V 2EF3:S70AC 2EF4:X",
  "2F00:S1F00 2F01:S1F27 2F02:S1F34 2F03:S1F3C 2F04:S1F55 2F05:S1F80 2F06:S1F86 2F07:S1F99",
  "2F08:S1FB2 2F09:S2236 2F0A:S225B 2F0B:S2260 2F0C:S2276 2F0D:S2289 2F0E:S229D 2F0F:S22D1",
  "2F10:S22E5 2F11:S22EF 2F12:S2389 2F13:S23E6 2F14:S2401 2F15:S2405 2F16:S2422 2F17:S242A",
  "2F18:S2444 2F19:S2450 2F1A:S2468 2F1B:S249B 2F1C:S24AC 2F1D:S24C6 2F1E:S27B9 2F1F:S2800",
  "2F20:S29CB 2F21:S29E1 2F22:S29E8 2F23:S29F2 2F24:S2A03 2F25:S2A4E 2F26:S2C2A 2F27:S2C59",
  "2F28:S2CD0 2F29:S2CE6 2F2A:S2CF8 2F2B:S2D0D 2F2C:S2D42 2F2D:S2D44 2F2E:S2EAD 2F2F:S2EB6",
  "2F30:S2EC1 2F31:S2ECD 2F32:S2F40 2F33:S2F47 2F34:S2F4B 2F35:S2FBF 2F36:S2FC8 2F37:S2FD4",
  "2F38:S2FDB 2F39:S3017 2F3A:S3027 2F3B:S3038 2F3C:S3087 2F3D:S32CB 2F3E:S32F8 2F3F:S330C",
  "2F40:S35EF 2F41:S35F3 2F42:S3645 2F43:S3654 2F44:S3660 2F45:S3674 2F46:S369A 2F47:S369E",
  "2F48:S37A8 2F49:S37BF 2F4A:S37DE 2F4B:S3BD5 2F4C:S3C16 2F4D:S3C2C 2F4E:S3C65 2F4F:S3C7C",
  "2F50:S3C84 2F51:S3C8A 2F52:S3CBD 2F53:S3CC1 2F54:S3CE0 2F55:S4116 2F56:S42D4 2F57:S42DF",
  "2F58:S42E3 2F59:S42E6 2F5A:S42ED 2F5B:S42FE 2F5C:S42FF 2F5D:S434F 2F5E:S4426 2F5F:S442A",
  "2F60:S457C 2F61:S4585 2F62:S45B6 2F63:S45BC 2F64:S45C4 2F65:S45CB 2F66:S4625 2F67:S462B",
  "2F68:S470E 2F69:S4714 2F6A:S4744 2F6B:S4754 2F6C:S4782 2F6D:S486E 2F6E:S4874 2F6F:S4884",
  "2F70:S49CA 2F71:S4A47 2F72:S4A4C 2F73:S4B01 2F74:S4B57 2F75:S4B84 2F76:S4CFD 2F77:S4D81",
  "2F78:S4FBE 2F79:S4FD8 2F7A:S5010 2F7B:S5042 2F7C:S5085 2F7D:S508F 2F7E:S5094 2F7F:S50B4",
  "2F80:S50FF 2F81:S5108 2F82:S5261 2F83:S5267 2F84:S526F 2F85:S5277 2F86:S5286 2F87:S5294",
  "2F88:S5297 2F89:S52E5 2F8A:S52E8 2F8B:S52ED 2F8C:S56C1 2F8D:S56DE 2F8E:S58B2 2F8F:S58BD",
  "2F90:S58D3 2F91:S59ED 2F92:S59F9 2F93:S5A3F 2F94:S5A6C 2F95:S5CA2 2F96:S5CB0 2F97:S5CBE",
  "2F98:S5CE0 2F99:S5D04 2F9A:S5DCA 2F9B:S5DD5 2F9C:S5E17 2F9D:S5F0E 2F9E:S5F2C 2F9F:S5FFC",
  "2FA0:S6010 2FA1:S6014 2FA2:S60EF 2FA3:S61A6 2FA4:S6222 2FA5:S6227 2FA6:S622B 2FA7:S65D0",
  "2FA8:S65D8 2FA9:S6673 2FAA:S670C 2FAB:S670E 2FAC:S673C 2FAD:S67A4 2FAE:S67B0 2FAF:S67B3",
  "2FB0:S67B9 2FB1:S681A 2FB2:S683B 2FB3:S6840 2FB4:S684D 2FB5:S68F3 2FB6:S6925 2FB7:S6928",
  "2FB8:S69DE 2FB9:S69E0 2FBA:S69F2 2FBB:S6AED 2FBC:S6B1C 2FBD:S6B22 2FBE:S6B67 2FBF:S6B70",
  "2FC0:S6B72 2FC1:S6B7B 2FC2:S6B98 2FC3:S6D22 2FC4:S6EB1 2FC5:S6EBA 2FC6:S6EDF 2FC7:S6EF4",
  "2FC8:S6EFB 2FC9:S6F04 2FCA:S6F07 2FCB:S6F2E 2FCC:S6F31 2FCD:S6F41 2FCE:S6F45 2FCF:S6F51",
  "2FD0:S6F6B 2FD1:S6F79 2FD2:S6F80 2FD3:S6FBA 2FD4:S6FC8 2FD5:S6FCB 2FD6:X 3000:S-2FE0",
  "3001:V 3002:S-2FD4 3003:V 3036:S-24 3037:V 3038:S2309 3039:S230B 303B:V 3040:X 3041:V",
  "3097:X 3099:V 309B:M20,3099 309C:M20,309A 309D:V 309F:M3088,308A 30A0:V 30FF:M30B3,30C8",
  "3100:X 3105:V 3130:X 3131:S-2031 3133:S-1F89 3134:S-2032 3135:S-1F89 3137:S-2034",
  "313A:S-1F8A 3140:S-2026 3141:S-203B 3144:S-2023 3145:S-203C 314F:S-1FEE 3164:X",
  "3165:S-2051 3167:S-1FA0 3169:S-1F9D 316A:S-1F9C 316B:S-1F98 316C:S-1F95 316D:S-1F94",
  "316E:S-2052 316F:S-1F92 3170:S-1F91 3171:S-2054 3173:S-2053 3174:S-2052 3176:S-204F",
  "3177:S-204E 3178:S-204D 317D:S-204B 317E:S-2048 317F:S-203F 3180:S-2039 3181:S-2035",
  "3182:S-1F91 3184:S-202D 3187:S-2003 3189:S-2001 318A:S-1FF9 318C:S-1FF8 318D:S-1FEF",
  "318E:S-1FED 318F:X 3190:V 3192:S1C6E 3193:S1CF9 3194:S1C75 3195:S2546 3196:S1C74",
  "3197:S1C96 3198:S1C73 3199:S4399 319A:S1CBF 319B:S1C7E 319C:S1C65 319D:S278C 319E:S2592",
  "319F:S1D1B 31A0:V 31E4:X 31F0:V 3200:M28,1100,29 3201:M28,1102,29 3202:M28,1103,29",
  "3203:M28,1105,29 3204:M28,1106,29 3205:M28,1107,29 3206:M28,1109,29 3207:M28,110B,29",
  "3208:M28,110C,29 3209:M28,110E,29 320A:M28,110F,29 320B:M28,1110,29 320C:M28,1111,29",
  "320D:M28,1112,29 320E:M28,AC00,29 320F:M28,B098,29 3210:M28,B2E4,29 3211:M28,B77C,29",
  "3212:M28,B9C8,29 3213:M28,BC14,29 3214:M28,C0AC,29 3215:M28,C544,29 3216:M28,C790,29",
  "3217:M28,CC28,29 3218:M28,CE74,29 3219:M28,D0C0,29 321A:M28,D30C,29 321B:M28,D558,29",
  "321C:M28,C8FC,29 321D:M28,C624,C804,29 321E:M28,C624,D6C4,29 321F:X 3220:M28,4E00,29",
  "3221:M28,4E8C,29 3222:M28,4E09,29 3223:M28,56DB,29 3224:M28,4E94,29 3225:M28,516D,29",
  "3226:M28,4E03,29 3227:M28,516B,29 3228:M28,4E5D,29 3229:M28,5341,29 322A:M28,6708,29",
  "322B:M28,706B,29 322C:M28,6C34,29 322D:M28,6728,29 322E:M28,91D1,29 322F:M28,571F,29",
  "3230:M28,65E5,29 3231:M28,682A,29 3232:M28,6709,29 3233:M28,793E,29 3234:M28,540D,29",
  "3235:M28,7279,29 3236:M28,8CA1,29 3237:M28,795D,29 3238:M28,52B4,29 3239:M28,4EE3,29",
  "323A:M28,547C,29 323B:M28,5B66,29 323C:M28,76E3,29 323D:M28,4F01,29 323E:M28,8CC7,29",
  "323F:M28,5354,29 3240:M28,796D,29 3241:M28,4F11,29 3242:M28,81EA,29 3243:M28,81F3,29",
  "3244:S230B 3245:S2C37 3246:S3341 3247:S4948 3248:V 3250:M70,74,65 3251:M32,31",
  "3252:M32,32 3253:M32,33 3254:M32,34 3255:M32,35 3256:M32,36 3257:M32,37 3258:M32,38",
  "3259:M32,39 325A:M33,30 325B:M33,31 325C:M33,32 325D:M33,33 325E:M33,34 325F:M33,35",
  "3260:S-2160 3261:S-215F 3263:S-215E 3266:S-215D 3267:S-215C 3269:S-215B 326E:S7992",
  "326F:S7E29 3270:S8074 3271:S850B 3272:S8756 3273:S89A1 3274:S8E38 3275:S92CF 3276:S951A",
  "3277:S99B1 3278:S9BFC 3279:S9E47 327A:SA092 327B:SA2DD 327C:MCC38,ACE0 327D:MC8FC,C758",
  "327E:S9432 327F:V 3280:S1B80 3281:S1C0B 3282:S1B87 3283:S2458 3284:S1C10 3285:S1EE8",
  "3286:S1B7D 3287:S1EE4 3288:S1BD5 3289:S20B8 328A:S347E 328B:S3DE0 328C:S39A8 328D:S349B",
  "328E:S5F43 328F:S2490 3290:S3355 3291:S3599 3292:S3477 3293:S46AB 3294:S2179 3295:S3FE4",
  "3296:S5A0B 3297:S46C6 3298:S201C 3299:S473F 329A:S429D 329B:S26D8 329C:S5DCD 329D:S1E8D",
  "329E:S20D2 329F:S3A49 32A0:S6565 32A1:S1C70 32A2:S1EF7 32A3:S38C0 32A4:S1B66 32A5:S1B88",
  "32A6:S1B65 32A7:S2B3F 32A8:S214B 32A9:S2092 32AA:S28ED 32AB:S28BB 32AC:S4437 32AD:S1C54",
  "32AE:S5A19 32AF:S20A5 32B0:S266C 32B1:M33,36 32B2:M33,37 32B3:M33,38 32B4:M33,39",
  "32B5:M34,30 32B6:M34,31 32B7:M34,32 32B8:M34,33 32B9:M34,34 32BA:M34,35 32BB:M34,36",
  "32BC:M34,37 32BD:M34,38 32BE:M34,39 32BF:M35,30 32C0:M31,6708 32C1:M32,6708",
  "32C2:M33,6708 32C3:M34,6708 32C4:M35,6708 32C5:M36,6708 32C6:M37,6708 32C7:M38,6708",
  "32C8:M39,6708 32C9:M31,30,6708 32CA:M31,31,6708 32CB:M31,32,6708 32CC:M68,67",
  "32CD:M65,72,67 32CE:M65,76 32CF:M6C,74,64 32D0:S-22E 32D1:S-22D 32D2:S-22C 32D3:S-22B",
  "32D4:S-22A 32D6:S-229 32D7:S-228 32D8:S-227 32D9:S-226 32DA:S-225 32DB:S-224 32DC:S-223",
  "32DD:S-222 32DE:S-221 32DF:S-220 32E0:S-21F 32E1:S-21D 32E2:S-21C 32E3:S-21B 32E4:S-21A",
  "32EA:S-218 32EB:S-216 32EC:S-214 32ED:S-212 32EE:S-210 32F3:S-20F 32F4:S-20E 32F5:S-20D",
  "32FB:S-20C 32FF:M4EE4,548C 3300:M30A2,30D1,30FC,30C8 3301:M30A2,30EB,30D5,30A1",
  "3302:M30A2,30F3,30DA,30A2 3303:M30A2,30FC,30EB 3304:M30A4,30CB,30F3,30B0",
  "3305:M30A4,30F3,30C1 3306:M30A6,30A9,30F3 3307:M30A8,30B9,30AF,30FC,30C9",
  "3308:M30A8,30FC,30AB,30FC 3309:M30AA,30F3,30B9 330A:M30AA,30FC,30E0 330B:M30AB,30A4,30EA",
  "330C:M30AB,30E9,30C3,30C8 330D:M30AB,30ED,30EA,30FC 330E:M30AC,30ED,30F3",
  "330F:M30AC,30F3,30DE 3310:M30AE,30AC 3311:M30AE,30CB,30FC 3312:M30AD,30E5,30EA,30FC",
  "3313:M30AE,30EB,30C0,30FC 3314:M30AD,30ED 3315:M30AD,30ED,30B0,30E9,30E0",
  "3316:M30AD,30ED,30E1,30FC,30C8,30EB 3317:M30AD,30ED,30EF,30C3,30C8 3318:M30B0,30E9,30E0",
  "3319:M30B0,30E9,30E0,30C8,30F3 331A:M30AF,30EB,30BC,30A4,30ED 331B:M30AF,30ED,30FC,30CD",
  "331C:M30B1,30FC,30B9 331D:M30B3,30EB,30CA 331E:M30B3,30FC,30DD 331F:M30B5,30A4,30AF,30EB",
  "3320:M30B5,30F3,30C1,30FC,30E0 3321:M30B7,30EA,30F3,30B0 3322:M30BB,30F3,30C1",
  "3323:M30BB,30F3,30C8 3324:M30C0,30FC,30B9 3325:M30C7,30B7 3326:M30C9,30EB",
  "3327:M30C8,30F3 3328:M30CA,30CE 3329:M30CE,30C3,30C8 332A:M30CF,30A4,30C4",
  "332B:M30D1,30FC,30BB,30F3,30C8 332C:M30D1,30FC,30C4 332D:M30D0,30FC,30EC,30EB",
  "332E:M30D4,30A2,30B9,30C8,30EB 332F:M30D4,30AF,30EB 3330:M30D4,30B3 3331:M30D3,30EB",
  "3332:M30D5,30A1,30E9,30C3,30C9 3333:M30D5,30A3,30FC,30C8 3334:M30D6,30C3,30B7,30A7,30EB",
  "3335:M30D5,30E9,30F3 3336:M30D8,30AF,30BF,30FC,30EB 3337:M30DA,30BD 3338:M30DA,30CB,30D2",
  "3339:M30D8,30EB,30C4 333A:M30DA,30F3,30B9 333B:M30DA,30FC,30B8 333C:M30D9,30FC,30BF",
  "333D:M30DD,30A4,30F3,30C8 333E:M30DC,30EB,30C8 333F:M30DB,30F3 3340:M30DD,30F3,30C9",
  "3341:M30DB,30FC,30EB 3342:M30DB,30FC,30F3 3343:M30DE,30A4,30AF,30ED 3344:M30DE,30A4,30EB",
  "3345:M30DE,30C3,30CF 3346:M30DE,30EB,30AF 3347:M30DE,30F3,30B7,30E7,30F3",
  "3348:M30DF,30AF,30ED,30F3 3349:M30DF,30EA 334A:M30DF,30EA,30D0,30FC,30EB 334B:M30E1,30AC",
  "334C:M30E1,30AC,30C8,30F3 334D:M30E1,30FC,30C8,30EB 334E:M30E4,30FC,30C9",
  "334F:M30E4,30FC,30EB 3350:M30E6,30A2,30F3 3351:M30EA,30C3,30C8,30EB 3352:M30EA,30E9",
  "3353:M30EB,30D4,30FC 3354:M30EB,30FC,30D6,30EB 3355:M30EC,30E0",
  "3356:M30EC,30F3,30C8,30B2,30F3 3357:M30EF,30C3,30C8 3358:M30,70B9 3359:M31,70B9",
  "335A:M32,70B9 335B:M33,70B9 335C:M34,70B9 335D:M35,70B9 335E:M36,70B9 335F:M37,70B9",
  "3360:M38,70B9 3361:M39,70B9 3362:M31,30,70B9 3363:M31,31,70B9 3364:M31,32,70B9",
  "3365:M31,33,70B9 3366:M31,34,70B9 3367:M31,35,70B9 3368:M31,36,70B9 3369:M31,37,70B9",
  "336A:M31,38,70B9 336B:M31,39,70B9 336C:M32,30,70B9 336D:M32,31,70B9 336E:M32,32,70B9",
  "336F:M32,33,70B9 3370:M32,34,70B9 3371:M68,70,61 3372:M64,61 3373:M61,75 3374:M62,61,72",
  "3375:M6F,76 3376:M70,63 3377:M64,6D 3378:M64,6D,32 3379:M64,6D,33 337A:M69,75",
  "337B:M5E73,6210 337C:M662D,548C 337D:M5927,6B63 337E:M660E,6CBB",
  "337F:M682A,5F0F,4F1A,793E 3380:M70,61 3381:M6E,61 3382:M3BC,61 3383:M6D,61 3384:M6B,61",
  "3385:M6B,62 3386:M6D,62 3387:M67,62 3388:M63,61,6C 3389:M6B,63,61,6C 338A:M70,66",
  "338B:M6E,66 338C:M3BC,66 338D:M3BC,67 338E:M6D,67 338F:M6B,67 3390:M68,7A 3391:M6B,68,7A",
  "3392:M6D,68,7A 3393:M67,68,7A 3394:M74,68,7A 3395:M3BC,6C 3396:M6D,6C 3397:M64,6C",
  "3398:M6B,6C 3399:M66,6D 339A:M6E,6D 339B:M3BC,6D 339C:M6D,6D 339D:M63,6D 339E:M6B,6D",
  "339F:M6D,6D,32 33A0:M63,6D,32 33A1:M6D,32 33A2:M6B,6D,32 33A3:M6D,6D,33 33A4:M63,6D,33",
  "33A5:M6D,33 33A6:M6B,6D,33 33A7:M6D,2215,73 33A8:M6D,2215,73,32 33A9:M70,61",
  "33AA:M6B,70,61 33AB:M6D,70,61 33AC:M67,70,61 33AD:M72,61,64 33AE:M72,61,64,2215,73",
  "33AF:M72,61,64,2215,73,32 33B0:M70,73 33B1:M6E,73 33B2:M3BC,73 33B3:M6D,73 33B4:M70,76",
  "33B5:M6E,76 33B6:M3BC,76 33B7:M6D,76 33B8:M6B,76 33B9:M6D,76 33BA:M70,77 33BB:M6E,77",
  "33BC:M3BC,77 33BD:M6D,77 33BE:M6B,77 33BF:M6D,77 33C0:M6B,3C9 33C1:M6D,3C9 33C2:X",
  "33C3:M62,71 33C4:M63,63 33C5:M63,64 33C6:M63,2215,6B,67 33C7:X 33C8:M64,62 33C9:M67,79",
  "33CA:M68,61 33CB:M68,70 33CC:M69,6E 33CD:M6B,6B 33CE:M6B,6D 33CF:M6B,74 33D0:M6C,6D",
  "33D1:M6C,6E 33D2:M6C,6F,67 33D3:M6C,78 33D4:M6D,62 33D5:M6D,69,6C 33D6:M6D,6F,6C",
  "33D7:M70,68 33D8:X 33D9:M70,70,6D 33DA:M70,72 33DB:M73,72 33DC:M73,76 33DD:M77,62",
  "33DE:M76,2215,6D 33DF:M61,2215,6D 33E0:M31,65E5 33E1:M32,65E5 33E2:M33,65E5",
  "33E3:M34,65E5 33E4:M35,65E5 33E5:M36,65E5 33E6:M37,65E5 33E7:M38,65E5 33E8:M39,65E5",
  "33E9:M31,30,65E5 33EA:M31,31,65E5 33EB:M31,32,65E5 33EC:M31,33,65E5 33ED:M31,34,65E5",
  "33EE:M31,35,65E5 33EF:M31,36,65E5 33F0:M31,37,65E5 33F1:M31,38,65E5 33F2:M31,39,65E5",
  "33F3:M32,30,65E5 33F4:M32,31,65E5 33F5:M32,32,65E5 33F6:M32,33,65E5 33F7:M32,34,65E5",
  "33F8:M32,35,65E5 33F9:M32,36,65E5 33FA:M32,37,65E5 33FB:M32,38,65E5 33FC:M32,39,65E5",
  "33FD:M33,30,65E5 33FE:M33,31,65E5 33FF:M67,61,6C 3400:V A48D:X A490:V A4C7:X A4D0:V",
  "A62C:X A640:A1 A66D:V A680:A1 A69B:V A69C:S-A252 A69D:S-A251 A69E:V A6F8:X A700:V",
  "A722:A1 A72F:V A732:A1 A76F:V A770:S-1 A771:V A779:A1 A77C:V A77D:S-8A04 A77E:A1 A787:V",
  "A78B:S1 A78C:V A78D:S-A528 A78E:V A790:A1 A793:V A796:A1 A7A9:V A7AA:S-A544 A7AB:S-A54F",
  "A7AC:S-A54B A7AD:S-A541 A7AE:S-A544 A7AF:V A7B0:S-A512 A7B1:S-A52A A7B2:S-A515 A7B3:S3A0",
  "A7B4:A1 A7C3:V A7C4:S-30 A7C5:S-A543 A7C6:S-8A38 A7C7:A1 A7CA:V A7CB:X A7D0:S1 A7D1:V",
  "A7D2:X A7D3:V A7D4:X A7D5:V A7D6:A1 A7D9:V A7DA:X A7F2:S-A78F A7F3:S-A78D A7F4:S-A783",
  "A7F5:S1 A7F6:V A7F8:S-A6D1 A7F9:S-A6A6 A7FA:V A82D:X A830:V A83A:X A840:V A878:X A880:V",
  "A8C6:X A8CE:V A8DA:X A8E0:V A954:X A95F:V A97D:X A980:V A9CE:X A9CF:V A9DA:X A9DE:V",
  "A9FF:X AA00:V AA37:X AA40:V AA4E:X AA50:V AA5A:X AA5C:V AAC3:X AADB:V AAF7:X AB01:V",
  "AB07:X AB09:V AB0F:X AB11:V AB17:X AB20:V AB27:X AB28:V AB2F:X AB30:V AB5C:S-435",
  "AB5D:S-26 AB5E:S-A8F3 AB5F:S-D AB60:V AB69:S-A8DC AB6A:V AB6C:X AB70:S-97D0 ABC0:V",
  "ABEE:X ABF0:V ABFA:X AC00:V D7A4:X D7B0:V D7C7:X D7CB:V D7FC:X F900:S-6CB8 F901:S-920D",
  "F902:S-6A38 F903:S-6C3B F904:S-8A33 F905:S-AAD3 F906:S-A521 F907:S-596B F908:S-596C",
  "F909:S-9FB8 F90A:S-6739 F90B:S-A384 F90C:S-9FC4 F90D:S-9717 F90E:S-82A5 F90F:S-798A",
  "F910:S-72D1 F911:S-7157 F912:S-701A F913:S-6884 F914:S-8F12 F915:S-8BFA F916:S-883D",
  "F917:S-8539 F918:S-74DB F919:S-67AF F91A:S-5F29 F91B:S-AA99 F91C:S-A5A7 F91D:S-8E19",
  "F91E:S-8703 F91F:S-72F2 F920:S-5B02 F921:S-9BD1 F922:S-8937 F923:S-7356 F924:S-6FC0",
  "F925:S-965C F926:S-774E F927:S-7108 F928:S-9A5E F929:S-9212 F92A:S-8BC0 F92B:S-862F",
  "F92C:S-685E F92D:S-A9A7 F92E:S-A777 F92F:S-A651 F930:S-946C F931:S-8E5E F932:S-8722",
  "F933:S-824C F934:S-7933 F935:S-732F F936:S-72DA F937:S-6B48 F938:S-6206 F939:S-5DCA",
  "F93A:S-5B40 F93B:S-80AF F93C:S-7FBD F93D:S-7B9D F93E:S-7575 F93F:S-663B F940:S-5AC1",
  "F941:S-6E6B F942:S-A063 F943:S-9A3F F944:S-7CE4 F945:S-78C7 F946:S-86E4 F947:S-807D",
  "F948:S-6C86 F949:S-6252 F94A:S-A072 F94B:S-9CE9 F94C:S-8F39 F94D:S-8B73 F94E:S-8A3F",
  "F94F:S-7C20 F950:S-7B19 F951:S-6306 F952:S-A680 F953:S-78C8 F954:S-A778 F955:S-A789",
  "F956:S-7F3A F957:S-7B99 F958:S-7567 F959:S-62E4 F95A:S-6DDA F95B:S-968C F95C:S-8F5A",
  "F95D:S-6E5F F95E:S-AB25 F95F:S-9D78 F960:S-994E F961:S-85DA F962:S-83F2 F963:S-A64C",
  "F964:S-8069 F965:S-A9A6 F966:S-99BD F967:S-AB5A F968:S-8C9C F969:S-93F1 F96A:S-7C48",
  "F96B:S-A5A8 F96C:S-A10E F96D:S-826C F96E:S-7525 F96F:S-6EC5 F970:S-8DB6 F971:S-69C1",
  "F972:S-8CEA F973:S-9675 F974:S-768F F975:S-95D5 F976:S-8411 F977:S-AAC9 F978:S-A80F",
  "F979:S-A7B0 F97A:S-90F9 F97B:S-7C94 F97C:S-770D F97D:S-6EAB F97E:S-67AF F97F:S-A68A",
  "F980:S-A53E F981:S-A00E F982:S-9A96 F983:S-93BE F984:S-8986 F985:S-805B F986:S-63D9",
  "F987:S-5F1D F988:S-5AF1 F989:S-5ABB F98A:S-A6EF F98B:S-92C5 F98C:S-8E15 F98D:S-6A2B",
  "F98E:S-9B1A F98F:S-97FF F990:S-9790 F991:S-94F7 F992:S-8A6F F993:S-884A F994:S-850B",
  "F995:S-7FCB F996:S-7BA2 F997:S-7928 F998:S-6A72 F999:S-74AB F99A:S-6977 F99B:S-6651",
  "F99C:S-A785 F99D:S-A6FA F99E:S-A4E1 F99F:S-88D7 F9A0:S-70DE F9A1:S-6EF7 F9A2:S-9AD9",
  "F9A3:S-99AE F9A4:S-9629 F9A5:S-8DF7 F9A6:S-7D68 F9A7:S-8632 F9A8:S-AAC4 F9A9:S-A2B0",
  "F9AA:S-9DC3 F9AB:S-9BF1 F9AC:S-9990 F9AD:S-85FB F9AE:S-8545 F9AF:S-7A15 F9B0:S-796A",
  "F9B1:S-677D F9B2:S-62BC F9B3:S-626B F9B4:S-619C F9B5:S-AA2A F9B6:S-8008 F9B7:S-6803",
  "F9B8:S-6300 F9B9:S-98D8 F9BA:S-AB34 F9BB:S-A8E1 F9BC:S-9DCE F9BD:S-9D7E F9BE:S-9425",
  "F9BF:S-8FBD F9C0:S-87F2 F9C1:S-837F F9C2:S-74C6 F9C3:S-6947 F9C4:S-5A37 F9C5:S-933D",
  "F9C6:S-6398 F9C7:S-A73E F9C8:S-924D F9C9:S-91D6 F9CA:S-8C89 F9CB:S-8B2F F9CC:S-85C3",
  "F9CD:S-8474 F9CE:S-8163 F9CF:S-7CBF F9D0:S-6172 F9D1:S-A864 F9D2:S-97A4 F9D3:S-635B",
  "F9D4:S-A9A9 F9D5:S-9CBC F9D6:S-8BEC F9D7:S-6AAD F9D8:S-9A4D F9D9:S-9895 F9DA:S-91C3",
  "F9DB:S-8654 F9DC:S-6356 F9DD:S-A7B4 F9DE:S-A5CF F9DF:S-9D7A F9E0:S-93CD F9E1:S-9293",
  "F9E2:S-913A F9E3:S-8CFE F9E4:S-85DE F9E5:S-8403 F9E6:S-7A6D F9E7:S-7118 F9E8:S-7107",
  "F9E9:S-681D F9EA:S-6308 F9EB:S-A6AC F9EC:S-8B32 F9ED:S-A5D0 F9EE:S-881E F9EF:S-8557",
  "F9F0:S-73F6 F9F1:S-634E F9F2:S-5D9B F9F3:S-5B54 F9F4:S-925D F9F5:S-8C2A F9F6:S-780E",
  "F9F7:S-7F2C F9F8:S-7ED8 F9F9:S-7D67 F9FA:S-873A F9FB:S-8962 F9FC:S-6EA4 F9FD:S-AB3D",
  "F9FE:S-76C8 F9FF:S-A7C5 FA00:S-A7F9 FA01:S-9B5B FA02:S-972F FA03:S-7D2D FA04:S-9E7F",
  "FA05:S-8CE7 FA06:S-9352 FA07:S-6ACC FA08:S-71BC FA09:S-63BC FA0A:S-707F FA0B:S-9B38",
  "FA0C:S-A8CC FA0D:S-A44D FA0E:V FA10:S-A1B6 FA11:V FA12:S-939E FA13:V FA15:S-A837",
  "FA16:S-86EC FA17:S-834D FA18:S-80DC FA19:S-80BB FA1A:S-80B5 FA1B:S-808C FA1C:S-62C6",
  "FA1D:S-7D5F FA1E:S-7A61 FA1F:V FA20:S-740E FA21:V FA22:S-6F2A FA23:V FA25:S-69ED",
  "FA26:S-6929 FA27:V FA2A:S-613B FA2B:S-612F FA2C:S-6104 FA2D:S-5C79 FA2E:S-6950",
  "FA2F:S-6378 FA30:S-AA82 FA31:S-A94A FA32:S-A8E5 FA33:S-A76A FA34:S-A750 FA35:S-A6E4",
  "FA36:S-A499 FA37:S-A431 FA38:S-A3D0 FA39:S-A1F9 FA3A:S-A192 FA3B:S-9DD7 FA3C:S-9DCE",
  "FA3D:S-99A9 FA3E:S-98D6 FA3F:S-98B1 FA40:S-984E FA41:S-94F2 FA42:S-9460 FA43:S-93B2",
  "FA44:S-91BF FA45:S-8CCE FA46:S-8C2C FA47:S-8B25 FA48:S-88DA FA49:S-881E FA4A:S-8628",
  "FA4B:S-81BA FA4C:S-810E FA4D:S-8104 FA4E:S-8106 FA4F:S-80FF FA50:S-80FA FA51:S-80F4",
  "FA52:S-80C5 FA54:S-8014 FA55:S-7FD4 FA56:S-7E96 FA57:S-7C63 FA58:S-7C4F FA59:S-7C18",
  "FA5A:S-7AE8 FA5B:S-7A56 FA5C:S-786F FA5D:S-77E4 FA5E:S-77E5 FA5F:S-7608 FA60:S-7150",
  "FA61:S-70CB FA62:S-6F61 FA63:S-6F2A FA64:S-6D91 FA65:S-6D5D FA66:S-6AB0 FA67:S-6A2F",
  "FA68:S-6385 FA69:S-626A FA6A:S-622F FA6B:S-99F6 FA6C:S14882 FA6D:S-7855 FA6E:X",
  "FA70:S-AC4A FA71:S-A8BC FA72:S-A90A FA73:S-AAF3 FA74:S-A92F FA75:S-A8F5 FA76:S-A7AF",
  "FA77:S-A77D FA78:S-A4DB FA79:S-A524 FA7A:S-A4E1 FA7B:S-A499 FA7C:S-A222 FA7D:S-A1CA",
  "FA7E:S-A13A FA7F:S-A12B FA80:S-A01E FA81:S-9F59 FA82:S-9BB0 FA83:S-9BAA FA84:S-9B1B",
  "FA85:S-9AD8 FA86:S-99AE FA87:S-9939 FA88:S-9980 FA89:S-98FB FA8A:S-992A FA8B:S-9899",
  "FA8C:S-9858 FA8D:S-96C9 FA8E:S-9672 FA8F:S-963D FA90:S-953A FA91:S-941D FA92:S-937B",
  "FA93:S-9378 FA94:S-933E FA95:S-8F1C FA96:S-8EDC FA97:S-8D56 FA98:S-8BBD FA99:S-8BCE",
  "FA9A:S-8B78 FA9B:S-8A7D FA9C:S-892E FA9D:S-82F6 FA9E:S-8869 FA9F:S-87F0 FAA0:S-8776",
  "FAA1:S-8630 FAA2:S-859C FAA3:S-8568 FAA4:S-8487 FAA5:S-8486 FAA6:S-83DC FAA7:S-83CC",
  "FAA8:S-83B4 FAA9:S-835F FAAA:S-836A FAAB:S-81DF FAAC:S-7FFB FAAD:S-7EED FAAE:S-7E33",
  "FAAF:S-7D54 FAB0:S-7CBC FAB1:S-7B73 FAB2:S-7AAD FAB3:S-7761 FAB4:S-76C5 FAB5:S-733C",
  "FAB6:S-7175 FAB7:S-7131 FAB8:S-7122 FAB9:S-6FFA FABA:S-6FC2 FABB:S-6FF0 FABC:S-6FBB",
  "FABD:S-6FBF FABE:S-6FD1 FABF:S-6F86 FAC0:S-6F36 FAC1:S-6DB9 FAC2:S-6B8A FAC3:S-6A51",
  "FAC4:S-692B FAC5:S-684F FAC6:S-644A FAC7:S-63E4 FAC8:S-6372 FAC9:S-62EE FACA:S-62CB",
  "FACB:S-62C0 FACC:S-6291 FACD:S-5FBB FACE:S-5B32 FACF:S12D7B FAD0:S12D74 FAD1:S13904",
  "FAD2:S-BF35 FAD3:S-BABB FAD4:S-BA9B FAD5:S15774 FAD6:S161FA FAD7:S183FC FAD8:S-5B95",
  "FAD9:S-5B4B FADA:X FB00:M66,66 FB01:M66,69 FB02:M66,6C FB03:M66,66,69 FB04:M66,66,6C",
  "FB05:M73,74 FB07:X FB13:M574,576 FB14:M574,565 FB15:M574,56B FB16:M57E,576 FB17:M574,56D",
  "FB18:X FB1D:M5D9,5B4 FB1E:V FB1F:M5F2,5B7 FB20:S-F53E FB21:S-F551 FB22:S-F54F",
  "FB24:S-F549 FB27:S-F53F FB28:S-F53E FB29:S-FAFE FB2A:M5E9,5C1 FB2B:M5E9,5C2",
  "FB2C:M5E9,5BC,5C1 FB2D:M5E9,5BC,5C2 FB2E:M5D0,5B7 FB2F:M5D0,5B8 FB30:M5D0,5BC",
  "FB31:M5D1,5BC FB32:M5D2,5BC FB33:M5D3,5BC FB34:M5D4,5BC FB35:M5D5,5BC FB36:M5D6,5BC",
  "FB37:X FB38:M5D8,5BC FB39:M5D9,5BC FB3A:M5DA,5BC FB3B:M5DB,5BC FB3C:M5DC,5BC FB3D:X",
  "FB3E:M5DE,5BC FB3F:X FB40:M5E0,5BC FB41:M5E1,5BC FB42:X FB43:M5E3,5BC FB44:M5E4,5BC",
  "FB45:X FB46:M5E6,5BC FB47:M5E7,5BC FB48:M5E8,5BC FB49:M5E9,5BC FB4A:M5EA,5BC",
  "FB4B:M5D5,5B9 FB4C:M5D1,5BF FB4D:M5DB,5BF FB4E:M5E4,5BF FB4F:M5D0,5DC FB50:S-F4DF",
  "FB51:S-F4E0 FB52:S-F4D7 FB53:S-F4D8 FB54:S-F4D9 FB55:S-F4DA FB56:S-F4D8 FB57:S-F4D9",
  "FB58:S-F4DA FB59:S-F4DB FB5A:S-F4DA FB5B:S-F4DB FB5C:S-F4DC FB5D:S-F4DD FB5E:S-F4E4",
  "FB5F:S-F4E5 FB60:S-F4E6 FB61:S-F4E7 FB62:S-F4E3 FB63:S-F4E4 FB64:S-F4E5 FB65:S-F4E6",
  "FB66:S-F4ED FB67:S-F4EE FB68:S-F4EF FB69:S-F4F0 FB6A:S-F4C6 FB6B:S-F4C7 FB6C:S-F4C8",
  "FB6D:S-F4C9 FB6E:S-F4C8 FB6F:S-F4C9 FB70:S-F4CA FB71:S-F4CB FB72:S-F4EE FB73:S-F4EF",
  "FB74:S-F4F0 FB75:S-F4F1 FB76:S-F4F3 FB77:S-F4F4 FB78:S-F4F5 FB79:S-F4F6 FB7A:S-F4F4",
  "FB7B:S-F4F5 FB7C:S-F4F6 FB7D:S-F4F7 FB7F:S-F4F8 FB80:S-F4F9 FB81:S-F4FA FB82:S-F4F5",
  "FB83:S-F4F6 FB84:S-F4F8 FB85:S-F4F9 FB86:S-F4F8 FB87:S-F4F9 FB88:S-F500 FB89:S-F501",
  "FB8A:S-F4F2 FB8B:S-F4F3 FB8C:S-F4FB FB8D:S-F4FC FB8E:S-F4E5 FB8F:S-F4E6 FB90:S-F4E7",
  "FB91:S-F4E8 FB92:S-F4E3 FB93:S-F4E4 FB94:S-F4E5 FB95:S-F4E6 FB96:S-F4E3 FB97:S-F4E4",
  "FB98:S-F4E5 FB99:S-F4E6 FB9A:S-F4E9 FB9B:S-F4EA FB9C:S-F4EB FB9D:S-F4EC FB9E:S-F4E4",
  "FB9F:S-F4E5 FBA1:S-F4E6 FBA2:S-F4E7 FBA3:S-F4E8 FBA4:S-F4E4 FBA5:S-F4E5 FBA7:S-F4E6",
  "FBA8:S-F4E7 FBA9:S-F4E8 FBAA:S-F4EC FBAB:S-F4ED FBAC:S-F4EE FBAD:S-F4EF FBAE:S-F4DC",
  "FBAF:S-F4DD FBB1:S-F4DE FBB2:V FBC3:X FBD3:S-F526 FBD4:S-F527 FBD5:S-F528 FBD6:S-F529",
  "FBD7:S-F510 FBD8:S-F511 FBD9:S-F513 FBDA:S-F514 FBDB:S-F513 FBDC:S-F514 FBDD:M6C7,674",
  "FBDE:S-F513 FBDF:S-F514 FBE0:S-F51B FBE1:S-F51C FBE2:S-F519 FBE3:S-F51A FBE4:S-F514",
  "FBE5:S-F515 FBE6:S-F516 FBE7:S-F517 FBE8:S-F59F FBE9:S-F5A0 FBEA:M626,627 FBEC:M626,6D5",
  "FBEE:M626,648 FBF0:M626,6C7 FBF2:M626,6C6 FBF4:M626,6C8 FBF6:M626,6D0 FBF9:M626,649",
  "FBFC:S-F530 FBFD:S-F531 FBFE:S-F532 FBFF:S-F533 FC00:M626,62C FC01:M626,62D",
  "FC02:M626,645 FC03:M626,649 FC04:M626,64A FC05:M628,62C FC06:M628,62D FC07:M628,62E",
  "FC08:M628,645 FC09:M628,649 FC0A:M628,64A FC0B:M62A,62C FC0C:M62A,62D FC0D:M62A,62E",
  "FC0E:M62A,645 FC0F:M62A,649 FC10:M62A,64A FC11:M62B,62C FC12:M62B,645 FC13:M62B,649",
  "FC14:M62B,64A FC15:M62C,62D FC16:M62C,645 FC17:M62D,62C FC18:M62D,645 FC19:M62E,62C",
  "FC1A:M62E,62D FC1B:M62E,645 FC1C:M633,62C FC1D:M633,62D FC1E:M633,62E FC1F:M633,645",
  "FC20:M635,62D FC21:M635,645 FC22:M636,62C FC23:M636,62D FC24:M636,62E FC25:M636,645",
  "FC26:M637,62D FC27:M637,645 FC28:M638,645 FC29:M639,62C FC2A:M639,645 FC2B:M63A,62C",
  "FC2C:M63A,645 FC2D:M641,62C FC2E:M641,62D FC2F:M641,62E FC30:M641,645 FC31:M641,649",
  "FC32:M641,64A FC33:M642,62D FC34:M642,645 FC35:M642,649 FC36:M642,64A FC37:M643,627",
  "FC38:M643,62C FC39:M643,62D FC3A:M643,62E FC3B:M643,644 FC3C:M643,645 FC3D:M643,649",
  "FC3E:M643,64A FC3F:M644,62C FC40:M644,62D FC41:M644,62E FC42:M644,645 FC43:M644,649",
  "FC44:M644,64A FC45:M645,62C FC46:M645,62D FC47:M645,62E FC48:M645,645 FC49:M645,649",
  "FC4A:M645,64A FC4B:M646,62C FC4C:M646,62D FC4D:M646,62E FC4E:M646,645 FC4F:M646,649",
  "FC50:M646,64A FC51:M647,62C FC52:M647,645 FC53:M647,649 FC54:M647,64A FC55:M64A,62C",
  "FC56:M64A,62D FC57:M64A,62E FC58:M64A,645 FC59:M64A,649 FC5A:M64A,64A FC5B:M630,670",
  "FC5C:M631,670 FC5D:M649,670 FC5E:M20,64C,651 FC5F:M20,64D,651 FC60:M20,64E,651",
  "FC61:M20,64F,651 FC62:M20,650,651 FC63:M20,651,670 FC64:M626,631 FC65:M626,632",
  "FC66:M626,645 FC67:M626,646 FC68:M626,649 FC69:M626,64A FC6A:M628,631 FC6B:M628,632",
  "FC6C:M628,645 FC6D:M628,646 FC6E:M628,649 FC6F:M628,64A FC70:M62A,631 FC71:M62A,632",
  "FC72:M62A,645 FC73:M62A,646 FC74:M62A,649 FC75:M62A,64A FC76:M62B,631 FC77:M62B,632",
  "FC78:M62B,645 FC79:M62B,646 FC7A:M62B,649 FC7B:M62B,64A FC7C:M641,649 FC7D:M641,64A",
  "FC7E:M642,649 FC7F:M642,64A FC80:M643,627 FC81:M643,644 FC82:M643,645 FC83:M643,649",
  "FC84:M643,64A FC85:M644,645 FC86:M644,649 FC87:M644,64A FC88:M645,627 FC89:M645,645",
  "FC8A:M646,631 FC8B:M646,632 FC8C:M646,645 FC8D:M646,646 FC8E:M646,649 FC8F:M646,64A",
  "FC90:M649,670 FC91:M64A,631 FC92:M64A,632 FC93:M64A,645 FC94:M64A,646 FC95:M64A,649",
  "FC96:M64A,64A FC97:M626,62C FC98:M626,62D FC99:M626,62E FC9A:M626,645 FC9B:M626,647",
  "FC9C:M628,62C FC9D:M628,62D FC9E:M628,62E FC9F:M628,645 FCA0:M628,647 FCA1:M62A,62C",
  "FCA2:M62A,62D FCA3:M62A,62E FCA4:M62A,645 FCA5:M62A,647 FCA6:M62B,645 FCA7:M62C,62D",
  "FCA8:M62C,645 FCA9:M62D,62C FCAA:M62D,645 FCAB:M62E,62C FCAC:M62E,645 FCAD:M633,62C",
  "FCAE:M633,62D FCAF:M633,62E FCB0:M633,645 FCB1:M635,62D FCB2:M635,62E FCB3:M635,645",
  "FCB4:M636,62C FCB5:M636,62D FCB6:M636,62E FCB7:M636,645 FCB8:M637,62D FCB9:M638,645",
  "FCBA:M639,62C FCBB:M639,645 FCBC:M63A,62C FCBD:M63A,645 FCBE:M641,62C FCBF:M641,62D",
  "FCC0:M641,62E FCC1:M641,645 FCC2:M642,62D FCC3:M642,645 FCC4:M643,62C FCC5:M643,62D",
  "FCC6:M643,62E FCC7:M643,644 FCC8:M643,645 FCC9:M644,62C FCCA:M644,62D FCCB:M644,62E",
  "FCCC:M644,645 FCCD:M644,647 FCCE:M645,62C FCCF:M645,62D FCD0:M645,62E FCD1:M645,645",
  "FCD2:M646,62C FCD3:M646,62D FCD4:M646,62E FCD5:M646,645 FCD6:M646,647 FCD7:M647,62C",
  "FCD8:M647,645 FCD9:M647,670 FCDA:M64A,62C FCDB:M64A,62D FCDC:M64A,62E FCDD:M64A,645",
  "FCDE:M64A,647 FCDF:M626,645 FCE0:M626,647 FCE1:M628,645 FCE2:M628,647 FCE3:M62A,645",
  "FCE4:M62A,647 FCE5:M62B,645 FCE6:M62B,647 FCE7:M633,645 FCE8:M633,647 FCE9:M634,645",
  "FCEA:M634,647 FCEB:M643,644 FCEC:M643,645 FCED:M644,645 FCEE:M646,645 FCEF:M646,647",
  "FCF0:M64A,645 FCF1:M64A,647 FCF2:M640,64E,651 FCF3:M640,64F,651 FCF4:M640,650,651",
  "FCF5:M637,649 FCF6:M637,64A FCF7:M639,649 FCF8:M639,64A FCF9:M63A,649 FCFA:M63A,64A",
  "FCFB:M633,649 FCFC:M633,64A FCFD:M634,649 FCFE:M634,64A FCFF:M62D,649 FD00:M62D,64A",
  "FD01:M62C,649 FD02:M62C,64A FD03:M62E,649 FD04:M62E,64A FD05:M635,649 FD06:M635,64A",
  "FD07:M636,649 FD08:M636,64A FD09:M634,62C FD0A:M634,62D FD0B:M634,62E FD0C:M634,645",
  "FD0D:M634,631 FD0E:M633,631 FD0F:M635,631 FD10:M636,631 FD11:M637,649 FD12:M637,64A",
  "FD13:M639,649 FD14:M639,64A FD15:M63A,649 FD16:M63A,64A FD17:M633,649 FD18:M633,64A",
  "FD19:M634,649 FD1A:M634,64A FD1B:M62D,649 FD1C:M62D,64A FD1D:M62C,649 FD1E:M62C,64A",
  "FD1F:M62E,649 FD20:M62E,64A FD21:M635,649 FD22:M635,64A FD23:M636,649 FD24:M636,64A",
  "FD25:M634,62C FD26:M634,62D FD27:M634,62E FD28:M634,645 FD29:M634,631 FD2A:M633,631",
  "FD2B:M635,631 FD2C:M636,631 FD2D:M634,62C FD2E:M634,62D FD2F:M634,62E FD30:M634,645",
  "FD31:M633,647 FD32:M634,647 FD33:M637,645 FD34:M633,62C FD35:M633,62D FD36:M633,62E",
  "FD37:M634,62C FD38:M634,62D FD39:M634,62E FD3A:M637,645 FD3B:M638,645 FD3C:M627,64B",
  "FD3E:V FD50:M62A,62C,645 FD51:M62A,62D,62C FD53:M62A,62D,645 FD54:M62A,62E,645",
  "FD55:M62A,645,62C FD56:M62A,645,62D FD57:M62A,645,62E FD58:M62C,645,62D",
  "FD5A:M62D,645,64A FD5B:M62D,645,649 FD5C:M633,62D,62C FD5D:M633,62C,62D",
  "FD5E:M633,62C,649 FD5F:M633,645,62D FD61:M633,645,62C FD62:M633,645,645",
  "FD64:M635,62D,62D FD66:M635,645,645 FD67:M634,62D,645 FD69:M634,62C,64A",
  "FD6A:M634,645,62E FD6C:M634,645,645 FD6E:M636,62D,649 FD6F:M636,62E,645",
  "FD71:M637,645,62D FD73:M637,645,645 FD74:M637,645,64A FD75:M639,62C,645",
  "FD76:M639,645,645 FD78:M639,645,649 FD79:M63A,645,645 FD7A:M63A,645,64A",
  "FD7B:M63A,645,649 FD7C:M641,62E,645 FD7E:M642,645,62D FD7F:M642,645,645",
  "FD80:M644,62D,645 FD81:M644,62D,64A FD82:M644,62D,649 FD83:M644,62C,62C",
  "FD85:M644,62E,645 FD87:M644,645,62D FD89:M645,62D,62C FD8A:M645,62D,645",
  "FD8B:M645,62D,64A FD8C:M645,62C,62D FD8D:M645,62C,645 FD8E:M645,62E,62C",
  "FD8F:M645,62E,645 FD90:X FD92:M645,62C,62E FD93:M647,645,62C FD94:M647,645,645",
  "FD95:M646,62D,645 FD96:M646,62D,649 FD97:M646,62C,645 FD99:M646,62C,649",
  "FD9A:M646,645,64A FD9B:M646,645,649 FD9C:M64A,645,645 FD9E:M628,62E,64A",
  "FD9F:M62A,62C,64A FDA0:M62A,62C,649 FDA1:M62A,62E,64A FDA2:M62A,62E,649",
  "FDA3:M62A,645,64A FDA4:M62A,645,649 FDA5:M62C,645,64A FDA6:M62C,62D,649",
  "FDA7:M62C,645,649 FDA8:M633,62E,649 FDA9:M635,62D,64A FDAA:M634,62D,64A",
  "FDAB:M636,62D,64A FDAC:M644,62C,64A FDAD:M644,645,64A FDAE:M64A,62D,64A",
  "FDAF:M64A,62C,64A FDB0:M64A,645,64A FDB1:M645,645,64A FDB2:M642,645,64A",
  "FDB3:M646,62D,64A FDB4:M642,645,62D FDB5:M644,62D,645 FDB6:M639,645,64A",
  "FDB7:M643,645,64A FDB8:M646,62C,62D FDB9:M645,62E,64A FDBA:M644,62C,645",
  "FDBB:M643,645,645 FDBC:M644,62C,645 FDBD:M646,62C,62D FDBE:M62C,62D,64A",
  "FDBF:M62D,62C,64A FDC0:M645,62C,64A FDC1:M641,645,64A FDC2:M628,62D,64A",
  "FDC3:M643,645,645 FDC4:M639,62C,645 FDC5:M635,645,645 FDC6:M633,62E,64A",
  "FDC7:M646,62C,64A FDC8:X FDCF:V FDD0:X FDF0:M635,644,6D2 FDF1:M642,644,6D2",
  "FDF2:M627,644,644,647 FDF3:M627,643,628,631 FDF4:M645,62D,645,62F FDF5:M635,644,639,645",
  "FDF6:M631,633,648,644 FDF7:M639,644,64A,647 FDF8:M648,633,644,645 FDF9:M635,644,649",
  "FDFA:M635,644,649,20,627,644,644,647,20,639,644,64A,647,20,648,633,644,645",
  "FDFB:M62C,644,20,62C,644,627,644,647 FDFC:M631,6CC,627,644 FDFD:V FE00:I FE10:S-FDE4",
  "FE11:S-CE10 FE12:X FE13:S-FDD9 FE15:S-FDF4 FE16:S-FDD7 FE17:S-CE01 FE19:X FE20:V FE30:X",
  "FE31:S-DE1D FE32:S-DE1F FE33:S-FDD4 FE34:S-FDD5 FE35:S-FE0D FE37:S-FDBC FE38:S-FDBB",
  "FE39:S-CE25 FE3B:S-CE2B FE3D:S-CE33 FE3F:S-CE37 FE41:S-CE35 FE45:V FE47:S-FDEC",
  "FE48:S-FDEB FE49:M20,305 FE4D:S-FDEE FE4E:S-FDEF FE4F:S-FDF0 FE50:S-FE24 FE51:S-CE50",
  "FE52:X FE54:S-FE19 FE55:S-FE1B FE56:S-FE17 FE57:S-FE36 FE58:S-DE44 FE59:S-FE31",
  "FE5B:S-FDE0 FE5C:S-FDDF FE5D:S-CE49 FE5F:S-FE3C FE60:S-FE3A FE61:S-FE37 FE63:S-FE36",
  "FE64:S-FE28 FE65:S-FE27 FE66:S-FE29 FE67:X FE68:S-FE0C FE69:S-FE45 FE6B:S-FE2B FE6C:X",
  "FE70:M20,64B FE71:M640,64B FE72:M20,64C FE73:V FE74:M20,64D FE75:X FE76:M20,64E",
  "FE77:M640,64E FE78:M20,64F FE79:M640,64F FE7A:M20,650 FE7B:M640,650 FE7C:M20,651",
  "FE7D:M640,651 FE7E:M20,652 FE7F:M640,652 FE80:S-F85F FE82:S-F860 FE84:S-F861 FE86:S-F862",
  "FE88:S-F863 FE8A:S-F864 FE8B:S-F865 FE8C:S-F866 FE8E:S-F867 FE90:S-F868 FE91:S-F869",
  "FE92:S-F86A FE94:S-F86B FE96:S-F86C FE97:S-F86D FE98:S-F86E FE9A:S-F86F FE9B:S-F870",
  "FE9C:S-F871 FE9E:S-F872 FE9F:S-F873 FEA0:S-F874 FEA2:S-F875 FEA3:S-F876 FEA4:S-F877",
  "FEA6:S-F878 FEA7:S-F879 FEA8:S-F87A FEAA:S-F87B FEAC:S-F87C FEAE:S-F87D FEB0:S-F87E",
  "FEB2:S-F87F FEB3:S-F880 FEB4:S-F881 FEB6:S-F882 FEB7:S-F883 FEB8:S-F884 FEBA:S-F885",
  "FEBB:S-F886 FEBC:S-F887 FEBE:S-F888 FEBF:S-F889 FEC0:S-F88A FEC2:S-F88B FEC3:S-F88C",
  "FEC4:S-F88D FEC6:S-F88E FEC7:S-F88F FEC8:S-F890 FECA:S-F891 FECB:S-F892 FECC:S-F893",
  "FECE:S-F894 FECF:S-F895 FED0:S-F896 FED1:S-F890 FED2:S-F891 FED3:S-F892 FED4:S-F893",
  "FED6:S-F894 FED7:S-F895 FED8:S-F896 FEDA:S-F897 FEDB:S-F898 FEDC:S-F899 FEDE:S-F89A",
  "FEDF:S-F89B FEE0:S-F89C FEE2:S-F89D FEE3:S-F89E FEE4:S-F89F FEE6:S-F8A0 FEE7:S-F8A1",
  "FEE8:S-F8A2 FEEA:S-F8A3 FEEB:S-F8A4 FEEC:S-F8A5 FEEE:S-F8A6 FEF0:S-F8A7 FEF2:S-F8A8",
  "FEF3:S-F8A9 FEF4:S-F8AA FEF5:M644,622 FEF7:M644,623 FEF9:M644,625 FEFB:M644,627 FEFD:X",
  "FEFF:I FF00:X FF01:S-FEE0 FF21:S-FEC0 FF3B:S-FEE0 FF5F:S-D5DA FF61:S-FF33 FF62:S-CF56",
  "FF64:S-CF63 FF65:S-CE6A FF66:S-CE74 FF67:S-CEC6 FF68:S-CEC5 FF69:S-CEC4 FF6A:S-CEC3",
  "FF6B:S-CEC2 FF6C:S-CE89 FF6D:S-CE88 FF6E:S-CE87 FF6F:S-CEAC FF70:S-CE74 FF71:S-CECF",
  "FF72:S-CECE FF73:S-CECD FF74:S-CECC FF75:S-CECB FF77:S-CECA FF78:S-CEC9 FF79:S-CEC8",
  "FF7A:S-CEC7 FF7B:S-CEC6 FF7C:S-CEC5 FF7D:S-CEC4 FF7E:S-CEC3 FF7F:S-CEC2 FF80:S-CEC1",
  "FF81:S-CEC0 FF82:S-CEBE FF83:S-CEBD FF84:S-CEBC FF85:S-CEBB FF8B:S-CEB9 FF8C:S-CEB7",
  "FF8D:S-CEB5 FF8E:S-CEB3 FF8F:S-CEB1 FF94:S-CEB0 FF95:S-CEAF FF96:S-CEAE FF9C:S-CEAD",
  "FF9D:S-CEAA FF9E:S-CF05 FFA0:X FFA1:S-EEA1 FFA3:S-EDF9 FFA4:S-EEA2 FFA5:S-EDF9",
  "FFA7:S-EEA4 FFAA:S-EDFA FFB0:S-EE96 FFB1:S-EEAB FFB4:S-EE93 FFB5:S-EEAC FFBF:X",
  "FFC2:S-EE61 FFC8:X FFCA:S-EE63 FFD0:X FFD2:S-EE65 FFD8:X FFDA:S-EE67 FFDD:X FFE0:S-FF3E",
  "FFE2:S-FF36 FFE3:M20,304 FFE4:S-FF3E FFE5:S-FF40 FFE6:S-DF3D FFE7:X FFE8:S-DAE6",
  "FFE9:S-DE59 FFED:S-DA4D FFEE:S-DA23 FFEF:X 10000:V 1000C:X 1000D:V 10027:X 10028:V",
  "1003B:X 1003C:V 1003E:X 1003F:V 1004E:X 10050:V 1005E:X 10080:V 100FB:X 10100:V 10103:X",
  "10107:V 10134:X 10137:V 1018F:X 10190:V 1019D:X 101A0:V 101A1:X 101D0:V 101FE:X 10280:V",
  "1029D:X 102A0:V 102D1:X 102E0:V 102FC:X 10300:V 10324:X 1032D:V 1034B:X 10350:V 1037B:X",
  "10380:V 1039E:X 1039F:V 103C4:X 103C8:V 103D6:X 10400:S28 10428:V 1049E:X 104A0:V",
  "104AA:X 104B0:S28 104D4:X 104D8:V 104FC:X 10500:V 10528:X 10530:V 10564:X 1056F:V",
  "10570:S27 1057B:X 1057C:S27 1058B:X 1058C:S27 10593:X 10594:S27 10596:X 10597:V 105A2:X",
  "105A3:V 105B2:X 105B3:V 105BA:X 105BB:V 105BD:X 10600:V 10737:X 10740:V 10756:X 10760:V",
  "10768:X 10780:V 10781:S-104B1 10783:S-1069D 10784:S-104EB 10785:S-10532 10786:X",
  "10787:S-104E4 10788:S-5C22 10789:S-104E4 1078A:S-104E6 1078B:S-10535 1078D:S-E9FC",
  "1078E:S-10536 1078F:S-10531 10790:S-104E7 10791:S-1052D 10792:S-10530 10793:S-10533",
  "10794:S-104F9 10795:S-1066E 10796:S-104FA 10797:S-10530 10798:S-10514 10799:S-104EF",
  "1079B:S-1052F 1079C:SD768 1079D:S-600F 1079E:S-10530 1079F:SD766 107A0:S-10512",
  "107A1:SD765 107A2:S-106AA 107A3:S-1052D 107A5:S-10734 107A6:S-1052C 107A7:SD761",
  "107A8:S-1052B 107AA:S-1052A 107AB:S-10503 107AC:S-10506 107AD:S-5C46 107AE:S-10507",
  "107AF:S-10527 107B0:S-DB3F 107B1:X 107B2:S-10523 107B3:S-10512 107B5:S-1051D",
  "107B6:S-105F6 107B9:SD751 107BA:SD764 107BB:X 10800:V 10806:X 10808:V 10809:X 1080A:V",
  "10836:X 10837:V 10839:X 1083C:V 1083D:X 1083F:V 10856:X 10857:V 1089F:X 108A7:V 108B0:X",
  "108E0:V 108F3:X 108F4:V 108F6:X 108FB:V 1091C:X 1091F:V 1093A:X 1093F:V 10940:X 10980:V",
  "109B8:X 109BC:V 109D0:X 109D2:V 10A04:X 10A05:V 10A07:X 10A0C:V 10A14:X 10A15:V 10A18:X",
  "10A19:V 10A36:X 10A38:V 10A3B:X 10A3F:V 10A49:X 10A50:V 10A59:X 10A60:V 10AA0:X 10AC0:V",
  "10AE7:X 10AEB:V 10AF7:X 10B00:V 10B36:X 10B39:V 10B56:X 10B58:V 10B73:X 10B78:V 10B92:X",
  "10B99:V 10B9D:X 10BA9:V 10BB0:X 10C00:V 10C49:X 10C80:S40 10CB3:X 10CC0:V 10CF3:X",
  "10CFA:V 10D28:X 10D30:V 10D3A:X 10E60:V 10E7F:X 10E80:V 10EAA:X 10EAB:V 10EAE:X 10EB0:V",
  "10EB2:X 10EFD:V 10F28:X 10F30:V 10F5A:X 10F70:V 10F8A:X 10FB0:V 10FCC:X 10FE0:V 10FF7:X",
  "11000:V 1104E:X 11052:V 11076:X 1107F:V 110BD:X 110BE:V 110C3:X 110D0:V 110E9:X 110F0:V",
  "110FA:X 11100:V 11135:X 11136:V 11148:X 11150:V 11177:X 11180:V 111E0:X 111E1:V 111F5:X",
  "11200:V 11212:X 11213:V 11242:X 11280:V 11287:X 11288:V 11289:X 1128A:V 1128E:X 1128F:V",
  "1129E:X 1129F:V 112AA:X 112B0:V 112EB:X 112F0:V 112FA:X 11300:V 11304:X 11305:V 1130D:X",
  "1130F:V 11311:X 11313:V 11329:X 1132A:V 11331:X 11332:V 11334:X 11335:V 1133A:X 1133B:V",
  "11345:X 11347:V 11349:X 1134B:V 1134E:X 11350:V 11351:X 11357:V 11358:X 1135D:V 11364:X",
  "11366:V 1136D:X 11370:V 11375:X 11400:V 1145C:X 1145D:V 11462:X 11480:V 114C8:X 114D0:V",
  "114DA:X 11580:V 115B6:X 115B8:V 115DE:X 11600:V 11645:X 11650:V 1165A:X 11660:V 1166D:X",
  "11680:V 116BA:X 116C0:V 116CA:X 11700:V 1171B:X 1171D:V 1172C:X 11730:V 11747:X 11800:V",
  "1183C:X 118A0:S20 118C0:V 118F3:X 118FF:V 11907:X 11909:V 1190A:X 1190C:V 11914:X",
  "11915:V 11917:X 11918:V 11936:X 11937:V 11939:X 1193B:V 11947:X 11950:V 1195A:X 119A0:V",
  "119A8:X 119AA:V 119D8:X 119DA:V 119E5:X 11A00:V 11A48:X 11A50:V 11AA3:X 11AB0:V 11AF9:X",
  "11B00:V 11B0A:X 11C00:V 11C09:X 11C0A:V 11C37:X 11C38:V 11C46:X 11C50:V 11C6D:X 11C70:V",
  "11C90:X 11C92:V 11CA8:X 11CA9:V 11CB7:X 11D00:V 11D07:X 11D08:V 11D0A:X 11D0B:V 11D37:X",
  "11D3A:V 11D3B:X 11D3C:V 11D3E:X 11D3F:V 11D48:X 11D50:V 11D5A:X 11D60:V 11D66:X 11D67:V",
  "11D69:X 11D6A:V 11D8F:X 11D90:V 11D92:X 11D93:V 11D99:X 11DA0:V 11DAA:X 11EE0:V 11EF9:X",
  "11F00:V 11F11:X 11F12:V 11F3B:X 11F3E:V 11F5A:X 11FB0:V 11FB1:X 11FC0:V 11FF2:X 11FFF:V",
  "1239A:X 12400:V 1246F:X 12470:V 12475:X 12480:V 12544:X 12F90:V 12FF3:X 13000:V 13430:X",
  "13440:V 13456:X 14400:V 14647:X 16800:V 16A39:X 16A40:V 16A5F:X 16A60:V 16A6A:X 16A6E:V",
  "16ABF:X 16AC0:V 16ACA:X 16AD0:V 16AEE:X 16AF0:V 16AF6:X 16B00:V 16B46:X 16B50:V 16B5A:X",
  "16B5B:V 16B62:X 16B63:V 16B78:X 16B7D:V 16B90:X 16E40:S20 16E60:V 16E9B:X 16F00:V",
  "16F4B:X 16F4F:V 16F88:X 16F8F:V 16FA0:X 16FE0:V 16FE5:X 16FF0:V 16FF2:X 17000:V 187F8:X",
  "18800:V 18CD6:X 18D00:V 18D09:X 1AFF0:V 1AFF4:X 1AFF5:V 1AFFC:X 1AFFD:V 1AFFF:X 1B000:V",
  "1B123:X 1B132:V 1B133:X 1B150:V 1B153:X 1B155:V 1B156:X 1B164:V 1B168:X 1B170:V 1B2FC:X",
  "1BC00:V 1BC6B:X 1BC70:V 1BC7D:X 1BC80:V 1BC89:X 1BC90:V 1BC9A:X 1BC9C:V 1BCA0:I 1BCA4:X",
  "1CF00:V 1CF2E:X 1CF30:V 1CF47:X 1CF50:V 1CFC4:X 1D000:V 1D0F6:X 1D100:V 1D127:X 1D129:V",
  "1D15E:M1D157,1D165 1D15F:M1D158,1D165 1D160:M1D158,1D165,1D16E 1D161:M1D158,1D165,1D16F",
  "1D162:M1D158,1D165,1D170 1D163:M1D158,1D165,1D171 1D164:M1D158,1D165,1D172 1D165:V",
  "1D173:X 1D17B:V 1D1BB:M1D1B9,1D165 1D1BC:M1D1BA,1D165 1D1BD:M1D1B9,1D165,1D16E",
  "1D1BE:M1D1BA,1D165,1D16E 1D1BF:M1D1B9,1D165,1D16F 1D1C0:M1D1BA,1D165,1D16F 1D1C1:V",
  "1D1EB:X 1D200:V 1D246:X 1D2C0:V 1D2D4:X 1D2E0:V 1D2F4:X 1D300:V 1D357:X 1D360:V 1D379:X",
  "1D400:S-1D39F 1D41A:S-1D3B9 1D434:S-1D3D3 1D44E:S-1D3ED 1D455:X 1D456:S-1D3ED",
  "1D468:S-1D407 1D482:S-1D421 1D49C:S-1D43B 1D49D:X 1D49E:S-1D43B 1D4A0:X 1D4A2:S-1D43B",
  "1D4A3:X 1D4A5:S-1D43B 1D4A7:X 1D4A9:S-1D43B 1D4AD:X 1D4AE:S-1D43B 1D4B6:S-1D455 1D4BA:X",
  "1D4BB:S-1D455 1D4BC:X 1D4BD:S-1D455 1D4C4:X 1D4C5:S-1D455 1D4D0:S-1D46F 1D4EA:S-1D489",
  "1D504:S-1D4A3 1D506:X 1D507:S-1D4A3 1D50B:X 1D50D:S-1D4A3 1D515:X 1D516:S-1D4A3 1D51D:X",
  "1D51E:S-1D4BD 1D538:S-1D4D7 1D53A:X 1D53B:S-1D4D7 1D53F:X 1D540:S-1D4D7 1D545:X",
  "1D546:S-1D4D7 1D547:X 1D54A:S-1D4D7 1D551:X 1D552:S-1D4F1 1D56C:S-1D50B 1D586:S-1D525",
  "1D5A0:S-1D53F 1D5BA:S-1D559 1D5D4:S-1D573 1D5EE:S-1D58D 1D608:S-1D5A7 1D622:S-1D5C1",
  "1D63C:S-1D5DB 1D656:S-1D5F5 1D670:S-1D60F 1D68A:S-1D629 1D6A4:S-1D573 1D6A5:S-1D46E",
  "1D6A6:X 1D6A8:S-1D2F7 1D6B9:S-1D301 1D6BA:S-1D2F7 1D6C1:S-1B4BA 1D6C2:S-1D311",
  "1D6D3:S-1D310 1D6D4:S-1D311 1D6DB:S-1B4D9 1D6DC:S-1D327 1D6DD:S-1D325 1D6DE:S-1D324",
  "1D6DF:S-1D319 1D6E0:S-1D31F 1D6E1:S-1D321 1D6E2:S-1D331 1D6F3:S-1D33B 1D6F4:S-1D331",
  "1D6FB:S-1B4F4 1D6FC:S-1D34B 1D70D:S-1D34A 1D70E:S-1D34B 1D715:S-1B513 1D716:S-1D361",
  "1D717:S-1D35F 1D718:S-1D35E 1D719:S-1D353 1D71A:S-1D359 1D71B:S-1D35B 1D71C:S-1D36B",
  "1D72D:S-1D375 1D72E:S-1D36B 1D735:S-1B52E 1D736:S-1D385 1D747:S-1D384 1D748:S-1D385",
  "1D74F:S-1B54D 1D750:S-1D39B 1D751:S-1D399 1D752:S-1D398 1D753:S-1D38D 1D754:S-1D393",
  "1D755:S-1D395 1D756:S-1D3A5 1D767:S-1D3AF 1D768:S-1D3A5 1D76F:S-1B568 1D770:S-1D3BF",
  "1D781:S-1D3BE 1D782:S-1D3BF 1D789:S-1B587 1D78A:S-1D3D5 1D78B:S-1D3D3 1D78C:S-1D3D2",
  "1D78D:S-1D3C7 1D78E:S-1D3CD 1D78F:S-1D3CF 1D790:S-1D3DF 1D7A1:S-1D3E9 1D7A2:S-1D3DF",
  "1D7A9:S-1B5A2 1D7AA:S-1D3F9 1D7BB:S-1D3F8 1D7BC:S-1D3F9 1D7C3:S-1B5C1 1D7C4:S-1D40F",
  "1D7C5:S-1D40D 1D7C6:S-1D40C 1D7C7:S-1D401 1D7C8:S-1D407 1D7C9:S-1D409 1D7CA:S-1D3ED",
  "1D7CB:S-1D3EE 1D7CC:X 1D7CE:S-1D79E 1D7D8:S-1D7A8 1D7E2:S-1D7B2 1D7EC:S-1D7BC",
  "1D7F6:S-1D7C6 1D800:V 1DA8C:X 1DA9B:V 1DAA0:X 1DAA1:V 1DAB0:X 1DF00:V 1DF1F:X 1DF25:V",
  "1DF2B:X 1E000:V 1E007:X 1E008:V 1E019:X 1E01B:V 1E022:X 1E023:V 1E025:X 1E026:V 1E02B:X",
  "1E030:S-1DC00 1E039:S-1DBFF 1E03C:S-1DBFE 1E047:S-1DBFC 1E048:S-1DBFB 1E04A:S-139C1",
  "1E04B:S-1DB72 1E04C:S-1DBF6 1E04D:S-1DBF5 1E04E:S-1DB65 1E04F:S-1DBA0 1E050:S-1DB81",
  "1E051:S-1DC21 1E05A:S-1DC20 1E05C:S-1DC1E 1E05E:S-1DC1D 1E05F:S-1DC1C 1E065:S-1DC1B",
  "1E067:S-1DBD6 1E068:S-1DC12 1E069:S-1DC14 1E06A:S-1DC0B 1E06B:S-1DBC0 1E06C:S-13A1B",
  "1E06D:S-1DBBC 1E06E:X 1E08F:V 1E090:X 1E100:V 1E12D:X 1E130:V 1E13E:X 1E140:V 1E14A:X",
  "1E14E:V 1E150:X 1E290:V 1E2AF:X 1E2C0:V 1E2FA:X 1E2FF:V 1E300:X 1E4D0:V 1E4FA:X 1E7E0:V",
  "1E7E7:X 1E7E8:V 1E7EC:X 1E7ED:V 1E7EF:X 1E7F0:V 1E7FF:X 1E800:V 1E8C5:X 1E8C7:V 1E8D7:X",
  "1E900:S22 1E922:V 1E94C:X 1E950:V 1E95A:X 1E95E:V 1E960:X 1EC71:V 1ECB5:X 1ED01:V",
  "1ED3E:X 1EE00:S-1E7D9 1EE02:S-1E7D6 1EE03:S-1E7D4 1EE04:X 1EE05:S-1E7BD 1EE06:S-1E7D4",
  "1EE07:S-1E7DA 1EE08:S-1E7D1 1EE09:S-1E7BF 1EE0A:S-1E7C7 1EE0E:S-1E7DB 1EE0F:S-1E7D6",
  "1EE10:S-1E7CF 1EE11:S-1E7DC 1EE12:S-1E7D0 1EE13:S-1E7E2 1EE14:S-1E7E0 1EE15:S-1E7EB",
  "1EE17:S-1E7E9 1EE18:S-1E7E8 1EE19:S-1E7E3 1EE1A:S-1E7E2 1EE1B:S-1E7E1 1EE1C:S-1E7AE",
  "1EE1D:S-1E763 1EE1E:S-1E77D 1EE1F:S-1E7B0 1EE20:X 1EE21:S-1E7F9 1EE22:S-1E7F6 1EE23:X",
  "1EE24:S-1E7DD 1EE25:X 1EE27:S-1E7FA 1EE28:X 1EE29:S-1E7DF 1EE2A:S-1E7E7 1EE2E:S-1E7FB",
  "1EE2F:S-1E7F6 1EE30:S-1E7EF 1EE31:S-1E7FC 1EE32:S-1E7F0 1EE33:X 1EE34:S-1E800",
  "1EE35:S-1E80B 1EE37:S-1E809 1EE38:X 1EE39:S-1E803 1EE3A:X 1EE3B:S-1E801 1EE3C:X",
  "1EE42:S-1E816 1EE43:X 1EE47:S-1E81A 1EE48:X 1EE49:S-1E7FF 1EE4A:X 1EE4B:S-1E807 1EE4C:X",
  "1EE4D:S-1E807 1EE4E:S-1E81B 1EE4F:S-1E816 1EE50:X 1EE51:S-1E81C 1EE52:S-1E810 1EE53:X",
  "1EE54:S-1E820 1EE55:X 1EE57:S-1E829 1EE58:X 1EE59:S-1E823 1EE5A:X 1EE5B:S-1E821 1EE5C:X",
  "1EE5D:S-1E7A3 1EE5E:X 1EE5F:S-1E7F0 1EE60:X 1EE61:S-1E839 1EE62:S-1E836 1EE63:X",
  "1EE64:S-1E81D 1EE65:X 1EE67:S-1E83A 1EE68:S-1E831 1EE69:S-1E81F 1EE6A:S-1E827 1EE6B:X",
  "1EE6C:S-1E827 1EE6E:S-1E83B 1EE6F:S-1E836 1EE70:S-1E82F 1EE71:S-1E83C 1EE72:S-1E830",
  "1EE73:X 1EE74:S-1E840 1EE75:S-1E84B 1EE77:S-1E849 1EE78:X 1EE79:S-1E843 1EE7A:S-1E842",
  "1EE7B:S-1E841 1EE7C:S-1E80E 1EE7D:X 1EE7E:S-1E7DD 1EE7F:X 1EE80:S-1E859 1EE82:S-1E856",
  "1EE83:S-1E854 1EE84:S-1E83D 1EE86:S-1E854 1EE87:S-1E85A 1EE88:S-1E851 1EE89:S-1E83F",
  "1EE8A:X 1EE8B:S-1E847 1EE8E:S-1E85B 1EE8F:S-1E856 1EE90:S-1E84F 1EE91:S-1E85C",
  "1EE92:S-1E850 1EE93:S-1E862 1EE94:S-1E860 1EE95:S-1E86B 1EE97:S-1E869 1EE98:S-1E868",
  "1EE99:S-1E863 1EE9A:S-1E862 1EE9B:S-1E861 1EE9C:X 1EEA1:S-1E879 1EEA2:S-1E876",
  "1EEA3:S-1E874 1EEA4:X 1EEA5:S-1E85D 1EEA6:S-1E874 1EEA7:S-1E87A 1EEA8:S-1E871",
  "1EEA9:S-1E85F 1EEAA:X 1EEAB:S-1E867 1EEAE:S-1E87B 1EEAF:S-1E876 1EEB0:S-1E86F",
  "1EEB1:S-1E87C 1EEB2:S-1E870 1EEB3:S-1E882 1EEB4:S-1E880 1EEB5:S-1E88B 1EEB7:S-1E889",
  "1EEB8:S-1E888 1EEB9:S-1E883 1EEBA:S-1E882 1EEBB:S-1E881 1EEBC:X 1EEF0:V 1EEF2:X 1F000:V",
  "1F02C:X 1F030:V 1F094:X 1F0A0:V 1F0AF:X 1F0B1:V 1F0C0:X 1F0C1:V 1F0D0:X 1F0D1:V 1F0F6:X",
  "1F101:M30,2C 1F102:M31,2C 1F103:M32,2C 1F104:M33,2C 1F105:M34,2C 1F106:M35,2C",
  "1F107:M36,2C 1F108:M37,2C 1F109:M38,2C 1F10A:M39,2C 1F10B:V 1F110:M28,61,29",
  "1F111:M28,62,29 1F112:M28,63,29 1F113:M28,64,29 1F114:M28,65,29 1F115:M28,66,29",
  "1F116:M28,67,29 1F117:M28,68,29 1F118:M28,69,29 1F119:M28,6A,29 1F11A:M28,6B,29",
  "1F11B:M28,6C,29 1F11C:M28,6D,29 1F11D:M28,6E,29 1F11E:M28,6F,29 1F11F:M28,70,29",
  "1F120:M28,71,29 1F121:M28,72,29 1F122:M28,73,29 1F123:M28,74,29 1F124:M28,75,29",
  "1F125:M28,76,29 1F126:M28,77,29 1F127:M28,78,29 1F128:M28,79,29 1F129:M28,7A,29",
  "1F12A:M3014,73,3015 1F12B:S-1F0C8 1F12C:S-1F0BA 1F12D:M63,64 1F12E:M77,7A 1F12F:V",
  "1F130:S-1F0CF 1F14A:M68,76 1F14B:M6D,76 1F14C:M73,64 1F14D:M73,73 1F14E:M70,70,76",
  "1F14F:M77,63 1F150:V 1F16A:M6D,63 1F16B:M6D,64 1F16C:M6D,72 1F16D:V 1F190:M64,6A 1F191:V",
  "1F1AE:X 1F1E6:V 1F200:M307B,304B 1F201:M30B3,30B3 1F202:S-1C14D 1F203:X 1F210:S-18FC5",
  "1F211:S-196BA 1F212:S-19E46 1F213:S-1C14C 1F214:S-1A388 1F215:S-198FB 1F216:S-16833",
  "1F217:S-198EE 1F218:S-1A374 1F219:S-18BF9 1F21A:S-180F9 1F21B:S-18C82 1F21C:S-19FCF",
  "1F21D:S-19291 1F21E:S-1A091 1F21F:S-18C6F 1F220:S-1A003 1F221:S-174DF 1F222:S-17D03",
  "1F223:S-1657A 1F224:S-19934 1F225:S-19DEC 1F226:S-18312 1F227:S-18F92 1F228:S-18ED3",
  "1F229:S-1A429 1F22A:S-1A421 1F22B:S-161E1 1F22C:S-19446 1F22D:S-1A400 1F22E:S-19E3B",
  "1F22F:S-18F28 1F230:S-164C0 1F231:S-18FDE 1F232:S-178B1 1F233:S-177B9 1F234:S-19E2C",
  "1F235:S-183B5 1F236:S-18B2D 1F237:S-18B2F 1F238:S-17D05 1F239:S-19FC7 1F23A:S-19C84",
  "1F23B:S-160EE 1F23C:X 1F240:M3014,672C,3015 1F241:M3014,4E09,3015 1F242:M3014,4E8C,3015",
  "1F243:M3014,5B89,3015 1F244:M3014,70B9,3015 1F245:M3014,6253,3015 1F246:M3014,76D7,3015",
  "1F247:M3014,52DD,3015 1F248:M3014,6557,3015 1F249:X 1F250:S-192B9 1F251:S-19E62 1F252:X",
  "1F260:V 1F266:X 1F300:V 1F6D8:X 1F6DC:V 1F6ED:X 1F6F0:V 1F6FD:X 1F700:V 1F777:X 1F77B:V",
  "1F7DA:X 1F7E0:V 1F7EC:X 1F7F0:V 1F7F1:X 1F800:V 1F80C:X 1F810:V 1F848:X 1F850:V 1F85A:X",
  "1F860:V 1F888:X 1F890:V 1F8AE:X 1F8B0:V 1F8B2:X 1F900:V 1FA54:X 1FA60:V 1FA6E:X 1FA70:V",
  "1FA7D:X 1FA80:V 1FA89:X 1FA90:V 1FABE:X 1FABF:V 1FAC6:X 1FACE:V 1FADC:X 1FAE0:V 1FAE9:X",
  "1FAF0:V 1FAF9:X 1FB00:V 1FB93:X 1FB94:V 1FBCB:X 1FBF0:S-1FBC0 1FBFA:X 20000:V 2A6E0:X",
  "2A700:V 2B73A:X 2B740:V 2B81E:X 2B820:V 2CEA2:X 2CEB0:V 2EBE1:X 2EBF0:V 2EE5E:X",
  "2F800:S-2A9C3 2F801:S-2A9C9 2F802:S-2A9C1 2F803:S-F6E1 2F804:S-2A8A4 2F805:S-2A857",
  "2F806:S-2A84B 2F807:S-2A805 2F808:S-2A78E 2F809:S-2A770 2F80A:S-2A723 2F80B:S-2A73C",
  "2F80C:S-2C36E 2F80D:S-F1D3 2F80E:S-2A6C1 2F80F:S-2A6BB 2F810:S-2A6AC 2F811:S-2A69A",
  "2F812:S-F2F6 2F813:S-2C35A 2F814:S-2A6AD 2F815:S-2A688 2F816:S-F2CB 2F817:S-2A680",
  "2F818:S-2A674 2F819:S-2A94D 2F81A:S-2A66E 2F81B:S-2A666 2F81C:S-663D 2F81D:S-2A628",
  "2F81E:S-2A61B 2F81F:S-2C340 2F820:S-2A5E5 2F821:S-2A5DB 2F822:S-2A5B0 2F823:S-2A5AC",
  "2F824:S-2C30F 2F825:S-2A55E 2F826:S-2A55D 2F827:S-2A543 2F828:S-2A52E 2F829:S-2A524",
  "2F82B:S-2A514 2F82C:S-2A4E3 2F82D:S-2A4DC 2F82E:S-2A4D4 2F82F:S-2A4BC 2F830:S-2A4B3",
  "2F831:S-2A4B2 2F832:S-2A4B3 2F833:S-2A4B4 2F834:S-EE08 2F835:S-287C5 2F836:S-2A46C",
  "2F837:S-2A458 2F838:S-ECD5 2F839:S-2A44E 2F83A:S-2A449 2F83B:S-2A435 2F83C:S-2A39E",
  "2F83D:S-2A405 2F83E:S-2A3F6 2F83F:S-2A3D7 2F840:S-2A39E 2F841:S-2A34B 2F842:S-2A332",
  "2F843:S-2A2F0 2F844:S-2A2E1 2F845:S-2A2C1 2F846:S-2A2C2 2F847:S-2A2AE 2F848:S-2A29D",
  "2F849:S-2A296 2F84A:S-2A288 2F84B:S-2A135 2F84C:S-2A246 2F84D:S-2A136 2F84E:S-2A1FD",
  "2F84F:S-2A1DB 2F850:S-2A649 2F851:S-29F63 2F852:S-2A084 2F853:S-2A05F 2F854:S-2A047",
  "2F855:S-2A0CA 2F856:S-2A024 2F857:S-2A026 2F858:S-29FAC 2F859:S-E375 2F85A:S-29F68",
  "2F85B:S-29F64 2F85C:S-29F56 2F85D:S-29F43 2F85E:S-29F3C 2F85F:S-29EFD 2F860:S-E1B8",
  "2F861:S-E177 2F862:S-29E76 2F863:S-29E48 2F864:S-29E3D 2F865:S-29E8D 2F866:S-29E00",
  "2F867:S-2C179 2F868:X 2F869:S-29D61 2F86A:S-29D2C 2F86B:S-29D2D 2F86C:S-DEA4",
  "2F86D:S-29CAA 2F86E:S-29C96 2F86F:S-29C88 2F870:S-29C7D 2F871:S-DD59 2F872:S-29C73",
  "2F873:S-29C6D 2F874:X 2F875:S-29C53 2F876:S-2C0F5 2F877:S-29C17 2F878:S-29C0A",
  "2F879:S-29BB9 2F87A:S-29BED 2F87B:S-DA97 2F87C:S-29B39 2F87D:S-DA97 2F87E:S-29B10",
  "2F87F:S-29B14 2F880:S-29B04 2F881:S-29AA0 2F883:S-2C054 2F884:S-29A87 2F885:S-29A5D",
  "2F886:S-29A49 2F887:S-29A1E 2F888:S-2C026 2F889:S-D706 2F88A:S-2C00E 2F88B:S-299DB",
  "2F88C:S-299D9 2F88D:S-299D7 2F88E:S-299C4 2F88F:S-54FD 2F890:S-29992 2F891:S-D560",
  "2F892:S-D561 2F893:S-27692 2F894:S-29972 2F895:S-29973 2F896:S-2BFCF 2F897:S-C5DF",
  "2F898:S-96BE 2F899:S-29937 2F89A:S-2992F 2F89B:S-2BFB8 2F89C:S-29902 2F89D:S-298D0",
  "2F89E:S-298C7 2F89F:S-298A6 2F8A0:S-2981F 2F8A1:S-2BF67 2F8A2:S-2BF86 2F8A3:S-2980F",
  "2F8A4:S-D1D0 2F8A5:S-297DE 2F8A6:S-2975E 2F8A7:S-2975B 2F8A8:S-2975A 2F8A9:S-2975D",
  "2F8AA:S-29730 2F8AB:S-2971D 2F8AC:S-296FA 2F8AD:S-29709 2F8AE:S-296FF 2F8AF:S-296D1",
  "2F8B0:S-296BE 2F8B1:S-296BB 2F8B2:S-296A2 2F8B3:S-29698 2F8B4:S-29657 2F8B5:S-29604",
  "2F8B6:S-295E2 2F8B7:S-29567 2F8B8:S-CDAC 2F8B9:S-2957C 2F8BA:S-295BE 2F8BB:S-29553",
  "2F8BC:S-29539 2F8BD:S-294D9 2F8BE:S-CCCD 2F8BF:S-2949D 2F8C0:S-294FB 2F8C1:S-29518",
  "2F8C2:S-2BE94 2F8C3:S-2945A 2F8C4:S-29446 2F8C5:S-29428 2F8C6:S-2944F 2F8C7:S-2BE5B",
  "2F8C8:S-29379 2F8C9:S-2935D 2F8CA:S-C8C0 2F8CB:S-292E8 2F8CC:S-291D4 2F8CD:S-29284",
  "2F8CE:S-2BDB5 2F8CF:S-2923E 2F8D0:S-2BDC8 2F8D1:S-2BDED 2F8D2:S-2A740 2F8D3:S-2A73E",
  "2F8D4:S-291D4 2F8D5:S-29239 2F8D6:S-27829 2F8D7:S-2B4FE 2F8D8:S-291C1 2F8D9:S-291BE",
  "2F8DA:S-291B9 2F8DB:S-2917D 2F8DC:S-29189 2F8DD:S-C51A 2F8DE:S-2BD95 2F8DF:S-290E5",
  "2F8E0:S-2915B 2F8E1:S-2908F 2F8E2:S-2905D 2F8E3:S-C476 2F8E4:S-29056 2F8E5:S-290C6",
  "2F8E6:S-28FD2 2F8E7:S-2BD4A 2F8E8:S-28FA6 2F8E9:S-28F46 2F8EA:S-28F00 2F8EB:S-28E43",
  "2F8EC:S-C249 2F8ED:S-28E12 2F8EE:S-2BCD6 2F8EF:S-28DCE 2F8F0:S-C049 2F8F1:S-28D9D",
  "2F8F2:S-2BCA4 2F8F3:S-28D81 2F8F4:S-28D55 2F8F5:S-28D3B 2F8F7:S-BE6A 2F8F8:S-DBED",
  "2F8F9:S-BDFF 2F8FA:S-28CAC 2F8FB:S-BC3F 2F8FC:S-28C3D 2F8FD:S-28C30 2F8FE:S-28C97",
  "2F8FF:S-28BE9 2F900:S-28BC2 2F901:S-28B8A 2F902:S-28BC1 2F903:S-28B9A 2F904:S-28B8C",
  "2F905:S-28B80 2F906:S-BBE8 2F907:S-28BD3 2F908:S-28AD9 2F909:S-28A9B 2F90A:S-2BBD7",
  "2F90B:S-28A40 2F90C:S-28A45 2F90D:S-BA3C 2F90E:S-28B15 2F90F:S-289A1 2F910:S-B9B2",
  "2F911:S-B983 2F912:S-2894C 2F913:S-288DA 2F914:S-288F6 2F915:S-288FA 2F916:S-2BB80",
  "2F917:S-288CD 2F918:S-2889B 2F919:S-288A2 2F91A:S-2886D 2F91B:S-F3F6 2F91C:S-287D7",
  "2F91D:S-B6BA 2F91E:S-28782 2F91F:X 2F920:S-286F8 2F921:S-286EC 2F922:S-286D2",
  "2F923:S-B31B 2F924:S-286A4 2F925:S-28690 2F926:S-B1F1 2F927:S-B113 2F928:S-285AE",
  "2F929:S-2859E 2F92A:S-2BA7E 2F92B:S-28586 2F92C:S-2BA74 2F92D:S-2BA75 2F92E:S-284E7",
  "2F92F:S-284D3 2F930:S-284BF 2F931:S-284AC 2F932:S-28468 2F933:S-2BA18 2F934:S-28410",
  "2F935:S-ACFF 2F936:S-283F8 2F937:S-ACA5 2F938:S-283C8 2F939:S-D79A 2F93A:S-2832A",
  "2F93B:S-A99A 2F93C:S-A984 2F93D:S-A8F9 2F93E:S-2B942 2F93F:S-2B937 2F940:S-2824C",
  "2F941:S-A84E 2F942:S-A850 2F943:S-A82A 2F944:S-A811 2F945:S-28227 2F947:S-28228",
  "2F948:S-281FE 2F949:S-2B910 2F94A:S-281BF 2F94B:S-2B905 2F94C:S-2B8B6 2F94D:S-A530",
  "2F94E:S-28100 2F94F:S-280C3 2F950:S-28084 2F951:S-2B86E 2F952:S-A32C 2F953:S-27FFD",
  "2F954:S-A2BA 2F955:S-A290 2F956:S-27FC7 2F957:S-27F6C 2F958:S-2B829 2F959:S-27F19",
  "2F95A:S-27F10 2F95B:S-27F0C 2F95C:S-9FE0 2F95D:S-9EB6 2F95E:S-9EB7 2F95F:X 2F960:S-2B75E",
  "2F961:S-9DB6 2F962:S-27D9C 2F963:S-27D9A 2F964:S-2B73D 2F965:S-9CE5 2F966:S-27C94",
  "2F967:S-2B6C7 2F968:S-27C80 2F969:S-27C86 2F96A:S-27C6A 2F96B:S-99E5 2F96C:S-27C09",
  "2F96D:S-2B66C 2F96E:S-27BA7 2F96F:S-27B6D 2F970:S-27B2B 2F971:S-2B63D 2F972:S-974A",
  "2F973:S-972C 2F974:S-2B61B 2F975:S-969C 2F976:S-279FC 2F977:S-9639 2F978:S-279E3",
  "2F979:S-2797F 2F97A:S-27975 2F97B:S-94A1 2F97C:S-9459 2F97D:S-2791D 2F97E:S-93D6",
  "2F97F:S-2790F 2F980:S-C621 2F981:S-2B5AC 2F982:S-278D0 2F983:S-27880 2F984:S-2B579",
  "2F985:S-27847 2F986:S-29ED1 2F987:S-91E0 2F988:S-91D3 2F989:S-C5F6 2F98A:S-C5EE",
  "2F98B:S-2778A 2F98C:S-27788 2F98D:S-269EF 2F98E:S-2B523 2F98F:S-276FE 2F990:S-27705",
  "2F991:S-276F4 2F992:S-2A6DF 2F993:S-276E2 2F994:S-276E1 2F995:S-276D8 2F996:S-276B0",
  "2F997:S-8E5B 2F998:S-276B3 2F999:S-2767C 2F99A:S-27637 2F99B:S-275EE 2F99C:S-27679",
  "2F99D:S-275E0 2F99E:S-275B7 2F99F:S-27548 2F9A0:S-2764D 2F9A1:S-275D7 2F9A2:S-275D6",
  "2F9A3:S-275C7 2F9A4:S-8D6E 2F9A5:S-8C3A 2F9A6:S-8CD1 2F9A7:S-2B47C 2F9A8:S-274B7",
  "2F9A9:S-274B6 2F9AA:S-27494 2F9AB:S-85E1 2F9AC:S-27448 2F9AD:S-8A81 2F9AE:S-2B451",
  "2F9AF:S-2B44E 2F9B0:S-89FF 2F9B1:S-88DF 2F9B2:S-2B447 2F9B3:S-27363 2F9B4:S-27358",
  "2F9B5:S-2734E 2F9B6:S-2734D 2F9B7:S-2730E 2F9B8:S-27330 2F9B9:S-272AB 2F9BA:S-272D8",
  "2F9BB:S-27242 2F9BC:S-27294 2F9BD:S-27252 2F9BE:S-27238 2F9BF:X 2F9C0:S-271DF",
  "2F9C1:S-271C0 2F9C2:S-2B3C9 2F9C3:S-27163 2F9C4:S-27161 2F9C5:S-835E 2F9C6:S-270EF",
  "2F9C7:S-270E9 2F9C8:S-2B393 2F9C9:S-270CF 2F9CA:S-2C50F 2F9CB:S-811D 2F9CC:S-8066",
  "2F9CD:S-2B30F 2F9CE:S-2B307 2F9CF:S-26F2F 2F9D0:S-26EE3 2F9D1:S-26E47 2F9D2:S-26D7D",
  "2F9D3:S-7D2B 2F9D4:S-26D29 2F9D5:S-26D14 2F9D6:S-26CBB 2F9D7:S-26C60 2F9D8:S-7AA9",
  "2F9D9:S-F1D5 2F9DA:S-26C0F 2F9DB:S-26C1F 2F9DC:S-26BEC 2F9DD:S-F0FF 2F9DE:S-26B0A",
  "2F9DF:S-26AA7 2F9E0:S-740E 2F9E1:S-73F4 2F9E2:S-2694E 2F9E3:S-268F2 2F9E4:S-268D3",
  "2F9E5:S-72B7 2F9E6:S-268CB 2F9E7:S-267AF 2F9E8:S-26711 2F9EA:S-2676E 2F9EB:S-265F2",
  "2F9EC:S-265D7 2F9ED:S-6DF3 2F9EE:S-26463 2F9EF:S-2B05A 2F9F0:S-26439 2F9F1:S-6C7A",
  "2F9F2:S-2B00C 2F9F3:S-26330 2F9F4:S-29C42 2F9F5:S-262D2 2F9F6:S-68B1 2F9F7:S-67DD",
  "2F9F8:S-2AF8A 2F9F9:S-2AF83 2F9FA:S-2621A 2F9FB:S-65F1 2F9FC:S-2AF4A 2F9FD:S-6567",
  "2F9FE:S-261F3 2F9FF:S-261F4 2FA00:S-261D7 2FA01:S-644B 2FA02:S-26120 2FA03:S-2AED0",
  "2FA04:S-260DB 2FA05:S-2605E 2FA06:S-26044 2FA07:S-26009 2FA08:S-2AE3A 2FA09:S-5ED9",
  "2FA0A:S-25EF8 2FA0B:S-25DCB 2FA0C:S-25D0F 2FA0D:S-2AD3F 2FA0E:S-2AD21 2FA0F:S-25CA8",
  "2FA10:S-5942 2FA11:S-2AD19 2FA12:S-590D 2FA13:S-5805 2FA14:S-5783 2FA15:S-25B5A",
  "2FA16:S-2ACC0 2FA17:S-25B1E 2FA18:S-25B1A 2FA19:S-25B14 2FA1A:S-25B0B 2FA1B:S-25B05",
  "2FA1C:S-25AE1 2FA1D:S-541D 2FA1E:X 30000:V 3134B:X 31350:V 323B0:X E0100:I E01F0:X"
]

/-- Reads a rule. -/
def Rule.read? : List Char → Option Rule
  | ['V'] => some .valid
  | ['X'] => some .disallowed
  | ['I'] => some .ignored
  | 'M' :: cs =>
    ((String.ofList cs).splitOn ",").mapM (fun w => (Table.hex? w.toList).map Char.ofNat)
      |>.map .constant
  | 'S' :: cs => (Table.signedHex? cs).map .shift
  | 'A' :: cs => (Table.signedHex? cs).map .alternate
  | _ => none

/-- Reads one entry, a code point and a rule joined by a colon. -/
def Entry.read? (word : String) : Option Entry :=
  match word.splitOn ":" with
  | [code, rule] => do
    let start ← Table.hex? code.toList
    let rule ← Rule.read? rule.toList
    pure ⟨start, rule⟩
  | _ => none

/-- The entries of the table, in code point order. -/
def entries : Array Entry :=
  ((rows.flatMap (·.splitOn " ")).filterMap Entry.read?).toArray

/-- The character a code point becomes under an offset. -/
def moved (n : Nat) (offset : Int) : Char := Char.ofNat ((n : Int) + offset).toNat

/-- What an entry's rule does with the code point `n` at or after its start. -/
def Entry.status (e : Entry) (n : Nat) : Status :=
  match e.rule with
  | .valid => .valid
  | .disallowed => .disallowed
  | .ignored => .ignored
  | .constant image => .mapped image
  | .shift offset => .mapped [moved n offset]
  | .alternate offset => if (n - e.start) % 2 = 0 then .mapped [moved n offset] else .valid

/-- What the mapping does with a character. -/
def status (c : Char) : Status :=
  match Table.cover? Entry.start entries c.toNat with
  | some e => e.status c.toNat
  | none => .disallowed

end Idna

end Invoicing
