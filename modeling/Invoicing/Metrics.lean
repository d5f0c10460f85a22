/-!
# Metric families

The service counts what it does in five metric families, registered once when it starts: the
invoices by the status they entered, the errors by type, the duration of store statements by
operation, the amounts invoiced by currency, and the invoice creations the plan quota refused.

The metrics text opens each family with a `# HELP` line and a `# TYPE` line and lists the families
by name. A family whose samples carry labels has no sample until some label value is counted, and
is left out of the text until then; a family without labels always has its one sample. So the
quota refusals are the one family the text shows whatever ran before (`alwaysExposed`).

The families and their header lines are modelled here. The sample values are counts kept for the
whole process, which depend on everything that ran before, and the bucket bounds of the duration
histogram are read by nothing modelled; both are left out.
-/

namespace Invoicing

/-- The kind of a metric family. -/
inductive MetricKind where
  | counter
  | histogram
  deriving DecidableEq, Repr

/-- The name of a kind in a `# TYPE` line. -/
def MetricKind.name : MetricKind → String
  | .counter => "counter"
  | .histogram => "histogram"

/-- A registered metric family: its name, help text and kind, and the labels of its samples. -/
structure MetricFamily where
  name : String
  help : String
  kind : MetricKind
  labels : List String
  deriving DecidableEq, Repr

namespace MetricFamily

/-- Invoices by the status they entered. -/
def invoicesTotal : MetricFamily :=
  ⟨"invoicing_invoices_total", "Total number of invoices by status", .counter, ["status"]⟩

/-- Errors by type, for alerting. -/
def errorsTotal : MetricFamily :=
  ⟨"invoicing_errors_total", "Total number of errors by type", .counter, ["error_type"]⟩

/-- The duration of store statements, by operation. -/
def dbQueryDuration : MetricFamily :=
  ⟨"invoicing_db_query_duration_seconds", "Database query duration in seconds", .histogram,
    ["operation"]⟩

/-- Amounts invoiced, by currency. -/
def invoiceAmountTotal : MetricFamily :=
  ⟨"invoicing_invoice_amount_total", "Total invoice amount by currency", .counter, ["currency"]⟩

/-- Invoice creations refused by the plan quota. -/
def quotaRejectionsTotal : MetricFamily :=
  ⟨"invoicing_quota_rejections_total",
    "Total number of invoice creations rejected by the plan quota", .counter, []⟩

/-- The families, in the order they are registered. -/
def registry : List MetricFamily :=
  [invoicesTotal, errorsTotal, dbQueryDuration, invoiceAmountTotal, quotaRejectionsTotal]

/-- The `# HELP` and `# TYPE` lines that open a family in the metrics text. -/
def header (f : MetricFamily) : List String :=
  ["# HELP " ++ f.name ++ " " ++ f.help, "# TYPE " ++ f.name ++ " " ++ f.kind.name]

/-- The header lines the metrics text holds whatever was counted before: those of the families
without labels, by name. -/
def alwaysExposed : List String :=
  ((registry.filter (·.labels.isEmpty)).mergeSort fun a b => decide (a.name ≤ b.name)).flatMap
    header

example : alwaysExposed = quotaRejectionsTotal.header := by
  simp [alwaysExposed, registry, invoicesTotal, errorsTotal, dbQueryDuration, invoiceAmountTotal,
    quotaRejectionsTotal]

end MetricFamily

end Invoicing
