import InventoryHero.Model.Database
import InventoryHero.Periods.Gregorian
import InventoryHero.Storage.Pipeline

/-!
# Reports

`fetchSalesRecord` and `fetchCostsRecord` answer with the sales, or with the cost records, of a day,
a week, a month or a year. Both join the records to their products, soft-deleted ones included, and
keep those of the period that a date is in. They read the store and change nothing, so they are
functions of it.

What is used of moment is a `Calendar`; which instants make a day is a matter of the server's time
zone. Dates that moment cannot parse are left out.
-/

set_option autoImplicit false

namespace InventoryHero.Model

open Storage Periods

inductive ReportType
  | day
  | week
  | month
  | year
  deriving DecidableEq, Repr

/-- The periods of each type, one after the other, with months that start with a day. -/
structure Calendar where
  unit : ReportType → Division
  month_start : ∀ n, ∃ k, (unit .month).start n = (unit .day).start k

namespace Calendar

/-- `moment(date).startOf(reportType).toDate()`: the first millisecond of the period. -/
def startOf (cal : Calendar) (reportType : ReportType) (date : Date) : Date :=
  (cal.unit reportType).first date

/-- `moment(date).endOf(reportType).toDate()`: the last millisecond of the period. -/
def endOf (cal : Calendar) (reportType : ReportType) (date : Date) : Date :=
  (cal.unit reportType).last date

/-- The first milliseconds of the days of the month that `date` is in. -/
def daysOf (cal : Calendar) (date : Date) : List Date :=
  (cal.unit .day).starts (cal.startOf .month date) (cal.endOf .month date)

/-- The calendar of a server that runs on UTC. Weeks start on Sunday. -/
def utc : Calendar where
  unit
    | .day => .uniform 86400000 (by decide) 0
    | .week => (Division.uniform 86400000 (by decide) 0).group (.uniform 7 (by decide) (-4))
    | .month => (Division.uniform 86400000 (by decide) 0).group Gregorian.months
    | .year => (Division.uniform 86400000 (by decide) 0).group Gregorian.years
  month_start n := ⟨Gregorian.months.start n, rfl⟩

end Calendar

/-- A collection of records that refer to products, and the fields that the pipelines use. -/
structure Journal (ρ : Type) [Keyed ρ ObjectId] where
  collection : Store → Collection ρ
  product : ρ → ObjectId
  createdAt : ρ → Date

/-- The answer of a report: each record with its product. -/
structure Report (ρ : Type) where
  status : Nat
  results : List (Product × ρ)
  deriving DecidableEq, Repr

/-- The records that a report returns. -/
def Report.returned {ρ : Type} (report : Report ρ) : List ρ := report.results.map Prod.snd

section Fetch

variable {ρ : Type} [Keyed ρ ObjectId] (j : Journal ρ) (cal : Calendar)

/-- The `$match` of the pipelines. -/
def inWindow (date : Option Date) (reportType : ReportType) (createdAt : Date) : Bool :=
  match date with
  | some date =>
      let startDate := cal.startOf reportType date
      startDate ≤ createdAt && createdAt < cal.endOf reportType startDate
  -- without a date everything matches
  | none => true

/-- The pipeline of both handlers. -/
def fetchRecord (date : Option Date) (reportType : ReportType) (s : Store) : Report ρ where
  status := 200
  results :=
    sortDescending (fun d => (j.createdAt d.2 : WithBot Date))
      ((unwindElements (lookup (j.collection s).docs Product._id j.product s.products.docs)).filter
        fun d => inWindow cal date reportType (j.createdAt d.2))

end Fetch

/-- `salesData`. -/
def salesJournal : Journal Sale := ⟨Store.sales, Sale.product, Sale.createdAt⟩

/-- `costsData`. -/
def costsJournal : Journal Cost := ⟨Store.costs, Cost.product, Cost.createdAt⟩

def fetchSalesRecord (cal : Calendar) (date : Option Date) (reportType : ReportType) :
    Store → Report Sale :=
  fetchRecord salesJournal cal date reportType

/-- The `.tz('UTC')` of this handler does not change the instant. -/
def fetchCostsRecord (cal : Calendar) (date : Option Date) (reportType : ReportType) :
    Store → Report Cost :=
  fetchRecord costsJournal cal date reportType

end InventoryHero.Model
