import Mathlib.Algebra.Order.Group.Defs
import Mathlib.Tactic.Abel

/-!
# Accounts of bought, held and sold units

An account keeps three amounts of one kind of goods: what was bought, what is held, and what was
sold. Entries move units between them. Over accounts for many kinds (`ι → Account M`), `post` makes
a list of entries.

Two properties are kept by posting: the books balance (`Balanced`) as long as nothing is scrapped,
and what is held or sold is covered by what was bought (`Covered`) if scrapped amounts are not
negative.
-/

set_option autoImplicit false

namespace InventoryHero.Ledger

/-- Units bought, held and sold. -/
@[ext]
structure Account (M : Type) where
  bought : M
  held : M
  sold : M

/-- Movements of units. -/
inductive Entry (M : Type)
  /-- Units come in; a negative amount takes a purchase back. -/
  | purchase (q : M)
  | sell (q : M)
  /-- A sale is taken back. -/
  | undo (q : M)
  /-- Units held are given up. -/
  | scrap (q : M)
  /-- The account is emptied. -/
  | close

variable {ι M : Type} [AddCommGroup M]

namespace Account

/-- One entry. -/
def post (a : Account M) : Entry M → Account M
  | .purchase q => { a with bought := a.bought + q, held := a.held + q }
  | .sell q => { a with held := a.held - q, sold := a.sold + q }
  | .undo q => { a with held := a.held + q, sold := a.sold - q }
  | .scrap q => { a with held := a.held - q }
  | .close => ⟨0, 0, 0⟩

/-- Everything bought is held or sold. -/
def Balanced (a : Account M) : Prop := a.bought = a.held + a.sold

/-- Everything held or sold was bought. -/
def Covered [LE M] (a : Account M) : Prop := a.held + a.sold ≤ a.bought

end Account

/-- Entries that keep the balance. -/
def Entry.Exact : Entry M → Prop
  | .scrap q => q = 0
  | _ => True

/-- Entries that keep what is held and sold covered. -/
def Entry.Sound [LE M] : Entry M → Prop
  | .scrap q => 0 ≤ q
  | _ => True

theorem Entry.Exact.sound [Preorder M] {e : Entry M} (h : e.Exact) : e.Sound := by
  cases e with
  | scrap q => exact (show q = 0 from h).ge
  | _ => trivial

theorem Account.Balanced.post {a : Account M} {e : Entry M} (h : a.Balanced) (he : e.Exact) :
    (a.post e).Balanced := by
  unfold Account.Balanced at h ⊢
  cases e with
  | purchase q => simp only [Account.post, h]; abel
  | sell q => simp only [Account.post, h]; abel
  | undo q => simp only [Account.post, h]; abel
  | scrap q =>
      obtain rfl : q = 0 := he
      simp only [Account.post, h]; abel
  | close => simp [Account.post]

theorem Account.Covered.post [PartialOrder M] [IsOrderedAddMonoid M] {a : Account M}
    {e : Entry M} (h : a.Covered) (he : e.Sound) : (a.post e).Covered := by
  unfold Account.Covered at h ⊢
  cases e with
  | purchase q =>
      calc a.held + q + a.sold = a.held + a.sold + q := by abel
        _ ≤ a.bought + q := by gcongr
  | sell q =>
      calc a.held - q + (a.sold + q) = a.held + a.sold := by abel
        _ ≤ a.bought := h
  | undo q =>
      calc a.held + q + (a.sold - q) = a.held + a.sold := by abel
        _ ≤ a.bought := h
  | scrap q =>
      have hq : 0 ≤ q := he
      calc a.held - q + a.sold ≤ a.held + a.sold := by gcongr; exact sub_le_self _ hq
        _ ≤ a.bought := h
  | close => simp [Account.post]

/-- The account with `r` more units bought, such as purchases that were struck off the books. -/
def Account.restore (a : Account M) (r : M) : Account M := { a with bought := a.bought + r }

theorem Account.restore_post (a : Account M) (r : M) {e : Entry M} (h : e ≠ .close) :
    (a.post e).restore r = (a.restore r).post e := by
  cases e with
  | purchase q => simp [Account.post, Account.restore, add_right_comm]
  | sell q => rfl
  | undo q => rfl
  | scrap q => rfl
  | close => exact absurd rfl h

/-! ## Books for many kinds -/

section Books

variable [DecidableEq ι]

/-- Posts an entry for one kind of goods. -/
def postAt (books : ι → Account M) (k : ι) (e : Entry M) : ι → Account M :=
  Function.update books k ((books k).post e)

/-- Posts a list of entries. -/
def post (books : ι → Account M) (entries : List (ι × Entry M)) : ι → Account M :=
  entries.foldl (fun books e => postAt books e.1 e.2) books

@[simp] theorem post_nil (books : ι → Account M) : post books [] = books := rfl

theorem post_cons (books : ι → Account M) (k : ι) (e : Entry M) (rest : List (ι × Entry M)) :
    post books ((k, e) :: rest) = post (postAt books k e) rest := rfl

theorem post_singleton (books : ι → Account M) (k : ι) (e : Entry M) :
    post books [(k, e)] = postAt books k e := rfl

/-- What every single entry keeps, a list of them keeps. -/
theorem post_induction {P : Account M → Prop} {books : ι → Account M}
    {entries : List (ι × Entry M)} (h : ∀ k, P (books k))
    (hstep : ∀ e ∈ entries, ∀ a, P a → P (a.post e.2)) : ∀ k, P (post books entries k) := by
  induction entries generalizing books with
  | nil => exact h
  | cons e rest ih =>
      refine ih ?_ fun e' he' => hstep e' (List.mem_cons_of_mem _ he')
      intro k
      show P (Function.update books e.1 ((books e.1).post e.2) k)
      -- only the account of the entry changes
      by_cases hk : k = e.1
      · subst hk
        rw [Function.update_self]
        exact hstep e List.mem_cons_self _ (h _)
      · rw [Function.update_of_ne hk]
        exact h k

/-- Entries can be posted to the books with purchases restored. -/
theorem restore_post {books : ι → Account M} {entries : List (ι × Entry M)} (r : ι → M)
    (h : ∀ e ∈ entries, e.2 ≠ .close) :
    (fun k => (post books entries k).restore (r k)) =
      post (fun k => (books k).restore (r k)) entries := by
  induction entries generalizing books with
  | nil => rfl
  | cons e rest ih =>
      have hrest : ∀ e' ∈ rest, e'.2 ≠ .close := fun e' he' => h e' (List.mem_cons_of_mem _ he')
      obtain ⟨k, e⟩ := e
      rw [post_cons, post_cons, ih hrest]
      congr 1
      funext k'
      -- an entry other than `close` adds to what was bought, and so commutes with the restoring
      have hpost := Account.restore_post (books k) (r k) (h (k, e) List.mem_cons_self)
      by_cases hk : k' = k
      · subst hk
        simpa only [postAt, Function.update_self] using hpost
      · simp only [postAt, Function.update_of_ne hk]

/-- Books that balance still do after exact entries. -/
theorem balanced_post {books : ι → Account M} {entries : List (ι × Entry M)}
    (h : ∀ k, (books k).Balanced) (he : ∀ e ∈ entries, e.2.Exact) :
    ∀ k, (post books entries k).Balanced :=
  post_induction h fun e hmem _ ha => ha.post (he e hmem)

/-- Covered books stay covered under sound entries. -/
theorem covered_post [PartialOrder M] [IsOrderedAddMonoid M] {books : ι → Account M}
    {entries : List (ι × Entry M)} (h : ∀ k, (books k).Covered)
    (he : ∀ e ∈ entries, e.2.Sound) : ∀ k, (post books entries k).Covered :=
  post_induction h fun e hmem _ ha => ha.post (he e hmem)

end Books

end InventoryHero.Ledger
