import InventoryHero.Model.Reports
import InventoryHero.Model.Server

/-!
# Periods and the records in their reports

The window of a report is closed at the first and open at the last millisecond of its period. A
record is returned by the report of the period that it was created in and by no other, except at the
last millisecond of the period, when no report returns it. A record at the end of a day, but not of
the month, is in the month's report and in none of its days'.
-/

set_option autoImplicit false

namespace InventoryHero.Reports

open Storage Periods Model

variable {ρ : Type} [Keyed ρ ObjectId]

/-- The record is in the journal, and its product is in the catalogue. -/
def Recorded (j : Journal ρ) (s : Store) (a : ρ) : Prop :=
  a ∈ (j.collection s).docs ∧ ∃ p ∈ s.products.docs, j.product a = p._id

/-- Every record is returned once by the report of the period that it was created in, whichever date
of the period is asked for, and by no other report of this type. -/
def OncePerPeriod [DecidableEq ρ] (cal : Calendar) (j : Journal ρ) (s : Store)
    (fetch : Option Date → ReportType → Store → Report ρ) (r : ReportType) : Prop :=
  ∀ a, Recorded j s a → ∀ d, (fetch (some d) r s).returned.count a =
    if (cal.unit r).number d = (cal.unit r).number (j.createdAt a) then 1 else 0

/-- The records of the report of a month are those of the reports of its days, each taken once. -/
def MonthOfDays (cal : Calendar) (s : Store)
    (fetch : Option Date → ReportType → Store → Report ρ) (d : Date) : Prop :=
  (fetch (some d) .month s).returned.Perm
    ((cal.daysOf d).flatMap fun e => (fetch (some e) .day s).returned)

/-- The reports partition the journal. -/
def Partitioned [DecidableEq ρ] (cal : Calendar) (j : Journal ρ) (s : Store)
    (fetch : Option Date → ReportType → Store → Report ρ) : Prop :=
  (∀ r, OncePerPeriod cal j s fetch r) ∧ ∀ d, MonthOfDays cal s fetch d

/-- No record was created in the last millisecond of a period. -/
def NoneAtEnd (cal : Calendar) (j : Journal ρ) (s : Store) : Prop :=
  ∀ a, Recorded j s a → ∀ r, j.createdAt a ≠ cal.endOf r (j.createdAt a)

/-! ## One report -/

section Report

variable (j : Journal ρ) (cal : Calendar) (s : Store) (r : ReportType) (d : Date)

/-- The report, up to the order. -/
theorem returned_perm :
    (fetchRecord j cal (some d) r s).returned.Perm
      (((unwindElements (lookup (j.collection s).docs Product._id j.product s.products.docs)).map
        Prod.snd).filter fun a => inWindow cal (some d) r (j.createdAt a)) := by
  rw [List.filter_map]
  exact (perm_sortDescending _ _).map Prod.snd

theorem nodup_returned : (fetchRecord j cal (some d) r s).returned.Nodup :=
  (returned_perm j cal s r d).nodup_iff.2
    ((nodup_join (j.collection s).nodup_docs s.products.nodup).filter _)

variable {j cal s r d}

theorem inWindow_iff {t : Date} :
    inWindow cal (some d) r t = true ↔
      (cal.unit r).number t = (cal.unit r).number d ∧ t ≠ cal.endOf r t := by
  have hlast : (cal.unit r).last ((cal.unit r).first d) = (cal.unit r).last d :=
    (cal.unit r).last_eq_of_number_eq ((cal.unit r).number_first d)
  simp only [inWindow, Bool.and_eq_true, decide_eq_true_eq]
  rw [Calendar.startOf, Calendar.endOf, hlast]
  exact (cal.unit r).mem_window_iff

theorem mem_returned {a : ρ} :
    a ∈ (fetchRecord j cal (some d) r s).returned ↔ Recorded j s a ∧
      (cal.unit r).number (j.createdAt a) = (cal.unit r).number d ∧
      j.createdAt a ≠ cal.endOf r (j.createdAt a) := by
  rw [(returned_perm j cal s r d).mem_iff, List.mem_filter, mem_join, inWindow_iff]
  rfl

/-- Reports of one type. -/
theorem oncePerPeriod_iff [DecidableEq ρ] :
    OncePerPeriod cal j s (fetchRecord j cal) r ↔
      ∀ a, Recorded j s a → j.createdAt a ≠ cal.endOf r (j.createdAt a) := by
  constructor
  · intro h a ha
    -- the report for the very instant of the record
    have hcount := h a ha (j.createdAt a)
    rw [if_pos rfl] at hcount
    have hmem : a ∈ (fetchRecord j cal (some (j.createdAt a)) r s).returned :=
      List.count_pos_iff.1 (by omega)
    exact (mem_returned.1 hmem).2.2
  · intro h a ha d
    rw [(nodup_returned j cal s r d).count]
    refine if_congr ?_ rfl rfl
    rw [mem_returned, eq_comm]
    exact ⟨fun hmem => hmem.2.1, fun hnumber => ⟨ha, hnumber, h a ha⟩⟩

end Report

/-! ## Months and days -/

section Days

variable {j : Journal ρ} {cal : Calendar} {s : Store} {d : Date}

theorem mem_days {a : ρ} :
    a ∈ (cal.daysOf d).flatMap (fun e => (fetchRecord j cal (some e) .day s).returned) ↔
      Recorded j s a ∧
      (cal.unit .month).number (j.createdAt a) = (cal.unit .month).number d ∧
      j.createdAt a ≠ cal.endOf .day (j.createdAt a) := by
  simp only [List.mem_flatMap, mem_returned, Calendar.daysOf, Division.mem_starts]
  rw [Division.number_eq_iff_within (cal.unit .day) (cal.unit .month) cal.month_start]
  constructor
  · rintro ⟨_, ⟨n, hfirst, hlast, rfl⟩, ha, hnumber, hend⟩
    rw [Division.number_start] at hnumber
    exact ⟨ha, hnumber ▸ ⟨hfirst, hlast⟩, hend⟩
  · rintro ⟨ha, ⟨hfirst, hlast⟩, hend⟩
    exact ⟨_, ⟨_, hfirst, hlast, rfl⟩, ha, (Division.number_start _ _).symm, hend⟩

/-- No record is in the reports of two days. -/
theorem nodup_days :
    ((cal.daysOf d).flatMap
      fun e => (fetchRecord j cal (some e) .day s).returned).Nodup := by
  rw [List.nodup_flatMap]
  refine ⟨fun e _ => nodup_returned j cal s .day e, ?_⟩
  refine ((cal.unit .day).nodup_starts _ _).pairwise_of_forall_ne ?_
  intro e he e' he' hne a ha ha'
  obtain ⟨n, -, -, rfl⟩ := (cal.unit .day).mem_starts.1 he
  obtain ⟨n', -, -, rfl⟩ := (cal.unit .day).mem_starts.1 he'
  have hnumber := (mem_returned.1 ha).2.1.symm.trans (mem_returned.1 ha').2.1
  rw [Division.number_start, Division.number_start] at hnumber
  exact hne (hnumber ▸ rfl)

/-- The report of a month and those of its days: a record at the end of a day has to be one at the
end of the month. -/
theorem monthOfDays_iff :
    MonthOfDays cal s (fetchRecord j cal) d ↔ ∀ a, Recorded j s a →
      (cal.unit .month).number (j.createdAt a) = (cal.unit .month).number d →
      j.createdAt a = cal.endOf .day (j.createdAt a) →
      j.createdAt a = cal.endOf .month (j.createdAt a) := by
  have hend : ∀ t, t = cal.endOf .month t → t = cal.endOf .day t := fun t =>
    Division.last_eq_last_of_last (cal.unit .day) (cal.unit .month) cal.month_start
  rw [MonthOfDays, List.perm_ext_iff_of_nodup (nodup_returned j cal s .month d) nodup_days]
  simp only [mem_returned, mem_days]
  constructor
  · intro h a ha hnumber hday
    by_contra hmonth
    exact ((h a).1 ⟨ha, hnumber, hmonth⟩).2.2 hday
  · intro h a
    constructor
    · rintro ⟨ha, hnumber, hmonth⟩
      exact ⟨ha, hnumber, fun hday => hmonth (h a ha hnumber hday)⟩
    · rintro ⟨ha, hnumber, hday⟩
      exact ⟨ha, hnumber, fun hmonth => hday (hend _ hmonth)⟩

end Days

/-! ## The two handlers -/

theorem partitioned_iff [DecidableEq ρ] (cal : Calendar) (j : Journal ρ) (s : Store) :
    Partitioned cal j s (fetchRecord j cal) ↔ NoneAtEnd cal j s := by
  constructor
  · intro h a ha r
    exact oncePerPeriod_iff.1 (h.1 r) a ha
  · intro h
    refine ⟨fun r => oncePerPeriod_iff.2 fun a ha => h a ha r, fun d => monthOfDays_iff.2 ?_⟩
    intro a ha _ hday
    exact absurd hday (h a ha .day)

/-- **Reports partition the ledger** exactly if no record was created in the last millisecond of a
period. -/
theorem reports_partition_iff (cal : Calendar) (s : Store) :
    (Partitioned cal salesJournal s (fetchSalesRecord cal) ↔ NoneAtEnd cal salesJournal s) ∧
      (Partitioned cal costsJournal s (fetchCostsRecord cal) ↔ NoneAtEnd cal costsJournal s) :=
  ⟨partitioned_iff cal salesJournal s, partitioned_iff cal costsJournal s⟩

/-- A purchase and a sale in the last millisecond of 1 January 1970. -/
def lateShop : Store :=
  (serveAll [
    Sample.call (.addProduct
      { Sample.productBody 10 100 with transactionDate := some 86399999 }),
    Sample.call (.recordSales 1 { Sample.salesBody 4 with date := some 86399999 })]
    Sample.db).store

/-- Both are in the month's report, and in that of neither this day nor the next. -/
theorem late_records_in_no_day :
    lateShop.sales.docs.map Sale.createdAt = [86399999] ∧
      lateShop.costs.docs.map Cost.createdAt = [86399999] ∧
      (fetchSalesRecord .utc (some 0) .month lateShop).returned.length = 1 ∧
      (fetchCostsRecord .utc (some 0) .month lateShop).returned.length = 1 ∧
      ∀ d ∈ [0, 86399999, 86400000],
        (fetchSalesRecord .utc (some d) .day lateShop).results = [] ∧
        (fetchCostsRecord .utc (some d) .day lateShop).results = [] := by
  decide +kernel

end InventoryHero.Reports
