import InventoryHero.Routing.Router

/-!
# Symbolic paths

A map of segments that keeps what a router can see of them maps runs to runs (`walk_map`). With it,
one run on the path of a route, its parameters left as variables, says where every request of that
shape ends up, as long as no parameter happens to be a literal of the router (`walk_instance`).
-/

set_option autoImplicit false

namespace InventoryHero.Routing

variable {γ α σ τ : Type}

def Target.map (f : σ → τ) : Target α σ → Target α τ
  | .endpoint a params => .endpoint a (params.map f)
  | .notFound => .notFound
  | .malformed => .malformed

def Passage.map (f : σ → τ) (p : Passage γ α σ) : Passage γ α τ := ⟨p.guards, p.target.map f⟩

/-- The segment is read as its image, as far as the literals go. -/
structure Agrees (R : Reading σ) (R' : Reading τ) (f : σ → τ) (known : List String) (x : σ) :
    Prop where
  is : ∀ s ∈ known, R'.is s (f x) = R.is s x
  blank : R'.blank (f x) = R.blank x
  decode : R'.decode (f x) = (R.decode x).map f

section Symbolic

variable {R : Reading σ} {R' : Reading τ} {f : σ → τ} {known : List String}

theorem Agrees.mono {known' : List String} {x : σ} (h : Agrees R R' f known x)
    (hsub : known' ⊆ known) : Agrees R R' f known' x :=
  ⟨fun s hs => h.is s (hsub hs), h.blank, h.decode⟩

theorem takes_map {shape : List Segment} {path : List σ}
    (h : ∀ x ∈ path, Agrees R R' f known x) (hknown : ∀ s, .lit s ∈ shape → s ∈ known) :
    takes R' shape (path.map f) = (takes R shape path).map (List.map f) := by
  induction shape generalizing path with
  | nil =>
      rcases path with _ | ⟨x, _ | ⟨y, path⟩⟩
      · rfl
      · simp only [takes, List.map_cons, List.map_nil, (h x List.mem_cons_self).blank]
        split <;> rfl
      · rfl
  | cons segment shape ih =>
      rcases path with _ | ⟨x, path⟩
      · rfl
      · have hx := h x List.mem_cons_self
        have hrest := ih (fun y hy => h y (List.mem_cons_of_mem _ hy)) fun s hs =>
          hknown s (List.mem_cons_of_mem _ hs)
        cases segment with
        | lit s =>
            simp only [takes, List.map_cons, hx.is s (hknown s List.mem_cons_self), hrest]
            split <;> rfl
        | param =>
            simp only [takes, List.map_cons, hx.blank, hrest]
            split
            · rfl
            · simp [Function.comp_def]

theorem matchPath_map {shape : List Segment} {path : List σ}
    (h : ∀ x ∈ path, Agrees R R' f known x) (hknown : ∀ s, .lit s ∈ shape → s ∈ known) :
    matchPath R' shape (path.map f) = (matchPath R shape path).map (List.map f) := by
  cases shape with
  | nil => cases path <;> rfl
  | cons segment shape => exact takes_map h hknown

theorem takes_subset {shape : List Segment} {path params : List σ}
    (h : takes R shape path = some params) : params ⊆ path := by
  induction shape generalizing path params with
  | nil =>
      have hparams : params.length = 0 := takes_length h
      rw [List.eq_nil_of_length_eq_zero hparams]
      exact List.nil_subset _
  | cons segment shape ih =>
      rcases path with _ | ⟨x, path⟩
      · cases h
      · cases segment with
        | lit s =>
            simp only [takes] at h
            split at h
            · exact List.subset_cons_of_subset _ (ih h)
            · cases h
        | param =>
            simp only [takes] at h
            split at h
            · cases h
            · obtain ⟨params', hparams', rfl⟩ := Option.map_eq_some_iff.1 h
              exact List.cons_subset_cons _ (ih hparams')

theorem matchPath_subset {shape : List Segment} {path params : List σ}
    (h : matchPath R shape path = some params) : params ⊆ path := by
  cases shape with
  | nil =>
      have hparams : params.length = 0 := matchPath_length h
      rw [List.eq_nil_of_length_eq_zero hparams]
      exact List.nil_subset _
  | cons segment shape => exact takes_subset h

theorem decode_map {params : List σ} (h : ∀ x ∈ params, Agrees R R' f known x) :
    (params.map f).mapM R'.decode = (params.mapM R.decode).map (List.map f) := by
  induction params with
  | nil => rfl
  | cons x params ih =>
      have hrest := ih fun y hy => h y (List.mem_cons_of_mem _ hy)
      rw [List.map_cons, List.mapM_cons, List.mapM_cons, (h x List.mem_cons_self).decode, hrest]
      cases R.decode x with
      | none => rfl
      | some y => cases params.mapM R.decode <;> rfl

theorem below_subset (path : List σ) : below R path ⊆ path := by
  fun_cases below R path <;> simp

theorem below_map {path : List σ} (h : ∀ x ∈ path, Agrees R R' f known x) :
    below R' (path.map f) = (below R path).map f := by
  rcases path with _ | ⟨x, _ | ⟨y, _ | ⟨z, path⟩⟩⟩
  · rfl
  · simp only [below, List.map_cons, List.map_nil, (h x (by simp)).blank]
    split <;> rfl
  · simp only [below, List.map_cons, List.map_nil, (h x (by simp)).blank, (h y (by simp)).blank]
    repeat' split
    all_goals rfl
  · simp only [below, List.map_cons, (h x (by simp)).blank]
    split <;> rfl

/-- A run on the images of the segments is the image of the run. -/
theorem walk_map (r : Router γ α) (m : Method) {path : List σ}
    (h : ∀ x ∈ path, Agrees R R' f (literals r) x) :
    walk R' r m (path.map f) = (walk R r m path).map f := by
  induction r generalizing path with
  | done => rfl
  | route method shape guards endpoint rest ih =>
      have hrest := ih fun x hx => (h x hx).mono (List.subset_append_right _ _)
      have hmatch := matchPath_map h fun s hs => List.mem_append_left _
        (List.mem_filterMap.2 ⟨.lit s, hs, rfl⟩)
      simp only [walk, hmatch, hrest]
      cases hraw : matchPath R shape path with
      | none => rfl
      | some raw =>
          have hdecode := decode_map fun x hx => h x (matchPath_subset hraw hx)
          simp only [Option.map_some, hdecode]
          cases raw.mapM R.decode with
          | none => rfl
          | some params =>
              simp only [Option.map_some]
              split <;> rfl
  | use guard rest ih =>
      simp only [walk, ih h]
      rfl
  | mount segment inner rest ihinner ih =>
      have hrest := ih fun x hx => (h x hx).mono (List.subset_append_right _ _)
      simp only [walk, hrest]
      rcases path with _ | ⟨x, path⟩
      · rfl
      · simp only [enter, List.map_cons, (h x List.mem_cons_self).is segment List.mem_cons_self]
        by_cases hx : R.is segment x = true
        · have hinner : walk R' inner m ((below R path).map f) =
              (walk R inner m (below R path)).map f := by
            refine ihinner fun y hy => ?_
            refine (h y (List.mem_cons_of_mem _ (below_subset path hy))).mono ?_
            exact List.Subset.trans (List.subset_cons_self _ _) (List.subset_append_left _ _)
          rw [if_pos hx, if_pos hx, below_map fun y hy => h y (List.mem_cons_of_mem _ hy)]
          simp only [hinner]
          cases hwalk : walk R inner m (below R path) with
          | mk guards target => cases target <;> rfl
        · rw [if_neg hx, if_neg hx]

end Symbolic

/-! ## The routes of a router -/

/-- A segment of a symbolic path. -/
inductive Sym
  | lit (s : String)
  | var (i : ℕ)
  deriving DecidableEq, Repr

/-- The segment with values for the variables. -/
def Sym.eval (values : ℕ → String) : Sym → String
  | .lit s => s
  | .var i => values i

/-- A variable stands for no literal. -/
def symbolic : Reading Sym where
  is s
    | .lit l => s = l
    | .var _ => false
  blank
    | .lit l => l = ""
    | .var _ => false
  decode := some

/-- The path of a route, with its parameters numbered from `n`. -/
def pathFrom (n : ℕ) : List Segment → List Sym
  | [] => []
  | .lit s :: shape => .lit s :: pathFrom n shape
  | .param :: shape => .var n :: pathFrom (n + 1) shape

/-- A route of a router or of one that is mounted in it, with its path from the root. -/
structure Route (α : Type) where
  method : Method
  shape : List Segment
  endpoint : α
  deriving DecidableEq, Repr

/-- The routes in the order of their registration. -/
def routes : Router γ α → List (Route α)
  | .done => []
  | .route method shape _ endpoint rest => ⟨method, shape, endpoint⟩ :: routes rest
  | .use _ rest => routes rest
  | .mount segment inner rest =>
      (routes inner).map (fun ρ => { ρ with shape := .lit segment :: ρ.shape }) ++ routes rest

/-- The number of parameters. -/
def Route.arity (ρ : Route α) : ℕ := ρ.shape.count .param

/-- The path of the route with values for its parameters. -/
def Route.path (ρ : Route α) (values : ℕ → String) : List String :=
  (pathFrom 0 ρ.shape).map (Sym.eval values)

/-- On symbolic paths, no route takes the requests of a later one. -/
def Unshadowed (r : Router γ α) : Prop :=
  ∀ ρ ∈ routes r, (walk symbolic r ρ.method (pathFrom 0 ρ.shape)).target =
    .endpoint ρ.endpoint ((List.range ρ.arity).map .var)

instance [DecidableEq α] (r : Router γ α) : Decidable (Unshadowed r) :=
  inferInstanceAs (Decidable (∀ _ ∈ _, _))

/-! ## Texts -/

/-- The text up to the case of letters. -/
def fold (s : String) : List Char := s.toList.map Char.toLower

/-- `decodeURIComponent`. What it makes of a text with a `%` is left open. -/
structure Decoder where
  decode : String → Option String
  plain : ∀ s, '%' ∉ s.toList → decode s = some s

/-- Paths as they are sent. -/
def text (d : Decoder) : Reading String where
  is s x := fold s = fold x
  blank x := x = ""
  decode := d.decode

/-- The literal is in lower case and is decoded to itself. -/
def PlainLiteral (s : String) : Prop := s ≠ "" ∧ fold s = s.toList ∧ '%' ∉ s.toList

instance (s : String) : Decidable (PlainLiteral s) := inferInstanceAs (Decidable (_ ∧ _))

theorem PlainLiteral.eq {s s' : String} (hs : PlainLiteral s) (hs' : PlainLiteral s')
    (h : fold s = fold s') : s = s' := by
  rwa [hs.2.1, hs'.2.1, String.toList_inj] at h

theorem separates_text {d : Decoder} {lits : List String} (h : ∀ s ∈ lits, PlainLiteral s) :
    Separates (text d) lits := by
  intro s hs s' hs' x hx hx'
  exact (h s hs).eq (h s' hs') ((of_decide_eq_true hx).trans (of_decide_eq_true hx').symm)

/-- The text is read as a parameter wherever the router has one, and is none of its literals. -/
structure Plain (r : Router γ α) (x : String) : Prop where
  nonempty : x ≠ ""
  unescaped : '%' ∉ x.toList
  no_literal : ∀ s ∈ literals r, fold s ≠ fold x

section Instances

variable {d : Decoder} {r : Router γ α} {values : ℕ → String}

theorem agrees_lit {s : String} (hlits : ∀ s ∈ literals r, PlainLiteral s) (hs : s ∈ literals r) :
    Agrees symbolic (text d) (Sym.eval values) (literals r) (.lit s) where
  is l hl := by
    have hfold : fold l = fold s ↔ l = s :=
      ⟨(hlits l hl).eq (hlits s hs), congrArg fold⟩
    simp [text, symbolic, Sym.eval, hfold]
  blank := rfl
  decode := d.plain s (hlits s hs).2.2

theorem agrees_var {i : ℕ} (h : Plain r (values i)) :
    Agrees symbolic (text d) (Sym.eval values) (literals r) (.var i) where
  is l hl := decide_eq_false (h.no_literal l hl)
  blank := decide_eq_false h.nonempty
  decode := d.plain _ h.unescaped

theorem mem_pathFrom {x : Sym} {n : ℕ} {shape : List Segment} (h : x ∈ pathFrom n shape) :
    (∃ s, x = .lit s ∧ .lit s ∈ shape) ∨ ∃ i, x = .var i := by
  induction shape generalizing n with
  | nil => cases h
  | cons segment shape ih =>
      cases segment with
      | lit s =>
          rcases List.mem_cons.1 h with rfl | h
          · exact .inl ⟨s, rfl, List.mem_cons_self⟩
          · exact (ih h).imp_left fun ⟨s', hx, hs'⟩ => ⟨s', hx, List.mem_cons_of_mem _ hs'⟩
      | param =>
          rcases List.mem_cons.1 h with rfl | h
          · exact .inr ⟨n, rfl⟩
          · exact (ih h).imp_left fun ⟨s', hx, hs'⟩ => ⟨s', hx, List.mem_cons_of_mem _ hs'⟩

theorem mem_literals_of_route {ρ : Route α} (h : ρ ∈ routes r) {s : String}
    (hs : .lit s ∈ ρ.shape) : s ∈ literals r := by
  induction r generalizing ρ with
  | done => cases h
  | route method shape guards endpoint rest ih =>
      rcases List.mem_cons.1 h with rfl | h
      · exact List.mem_append_left _ (List.mem_filterMap.2 ⟨_, hs, rfl⟩)
      · exact List.mem_append_right _ (ih h hs)
  | use guard rest ih => exact ih h hs
  | mount segment inner rest ihinner ih =>
      rcases List.mem_append.1 h with h | h
      · obtain ⟨ρ', hρ', rfl⟩ := List.mem_map.1 h
        rcases List.mem_cons.1 hs with hs | hs
        · cases hs
          exact List.mem_cons_self
        · exact List.mem_cons_of_mem _ (List.mem_append_left _ (ihinner hρ' hs))
      · exact List.mem_cons_of_mem _ (List.mem_append_right _ (ih h hs))

/-- A request with the path of a route goes the way of the symbolic path. -/
theorem walk_instance (hlits : ∀ s ∈ literals r, PlainLiteral s) {ρ : Route α} (hρ : ρ ∈ routes r)
    (hvalues : ∀ i, Plain r (values i)) (m : Method) :
    walk (text d) r m (ρ.path values) =
      (walk symbolic r m (pathFrom 0 ρ.shape)).map (Sym.eval values) := by
  refine walk_map r m fun x hx => ?_
  rcases mem_pathFrom hx with ⟨s, rfl, hs⟩ | ⟨i, rfl⟩
  · exact agrees_lit hlits (mem_literals_of_route hρ hs)
  · exact agrees_var (hvalues i)

/-- Without shadowing, every route takes the requests with its path. -/
theorem target_of_unshadowed (h : Unshadowed r)
    (hlits : ∀ s ∈ literals r, PlainLiteral s) {ρ : Route α} (hρ : ρ ∈ routes r)
    (hvalues : ∀ i, Plain r (values i)) :
    (walk (text d) r ρ.method (ρ.path values)).target =
      .endpoint ρ.endpoint ((List.range ρ.arity).map values) := by
  rw [walk_instance hlits hρ hvalues]
  change Target.map _ (walk symbolic r ρ.method (pathFrom 0 ρ.shape)).target = _
  rw [h ρ hρ, Target.map, List.map_map]
  rfl

end Instances

end InventoryHero.Routing
