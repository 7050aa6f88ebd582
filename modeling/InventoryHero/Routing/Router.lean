import Mathlib.Data.List.Basic

/-!
# Routers

A router tries its layers in the order in which they were registered. A layer is a route, which
takes the requests of one method whose path has a certain shape; a guard, which every request that
comes by has to pass; or another router, mounted under a path. A request that a mounted router does
not take goes on to the next layer.

The framework itself is not modelled. `walk` rests on what the documentation of Express 4 says about
routers with the default options, which is assumed here:

* layers are tried in the order of their registration, and a request that a router does not take
  goes on behind it, with the guards passed on the way behind it as well (`walk`);
* `router.METHOD` takes requests of this method only, `router.get` also `HEAD` requests where no
  `router.head` comes before (`Method.takenBy`), and `router.use` takes every method;
* the path of a route has to match the whole path of the request, that of a mounted router its
  beginning, which is then removed (`matchPath`, `enter`);
* paths are compared without regard to the case of letters (`caseSensitive`) and to a slash at the
  end (`strict`); `:name` matches one segment that is not empty (`takes`, `below`);
* parameters are decoded with `decodeURIComponent`, and one that cannot be decoded ends the request
  with an error (`Reading.decode`, `Target.malformed`).

A path is the list of its segments; the path `/` has none, and a slash at the end shows as an empty
last segment. The operations on segments are a parameter (`Reading`), so that a router can be run on
symbolic paths as well.

`entries` and `falls` are what can be said about a router without knowing the path: the guards that
stand before each of its endpoints (`walk_foreseen`).
-/

set_option autoImplicit false

namespace InventoryHero.Routing

inductive Method
  | get
  | head
  | post
  | put
  | patch
  | delete
  | options
  | other (name : String)
  deriving DecidableEq, Repr

/-- A route of the method `m` takes the request; `GET` routes take `HEAD` requests. -/
def Method.takenBy (request m : Method) : Bool := request = m || (request = .head && m = .get)

/-- A segment of a route's path. -/
inductive Segment
  | lit (s : String)
  /-- `:name`. -/
  | param
  deriving DecidableEq, Repr

/-- The layers of a router. -/
inductive Router (γ α : Type)
  | done
  /-- `router.method(path, ...guards, endpoint)`. -/
  | route (method : Method) (path : List Segment) (guards : List γ) (endpoint : α)
      (rest : Router γ α)
  /-- `router.use(guard)`. -/
  | use (guard : γ) (rest : Router γ α)
  /-- `router.use('/segment', inner)`. -/
  | mount (segment : String) (inner rest : Router γ α)

/-- Where a request ends up. -/
inductive Target (α σ : Type)
  | endpoint (a : α) (params : List σ)
  | notFound
  /-- A parameter could not be decoded. -/
  | malformed
  deriving DecidableEq, Repr

/-- The guards that a request meets, in order, and where it ends up if all of them let it pass. -/
structure Passage (γ α σ : Type) where
  guards : List γ
  target : Target α σ
  deriving DecidableEq, Repr

/-- How the segments of a path are read. -/
structure Reading (σ : Type) where
  /-- The segment is the literal. -/
  is : String → σ → Bool
  blank : σ → Bool
  /-- The value of a parameter. -/
  decode : σ → Option σ

variable {γ α σ τ : Type}

/-- The passage of a request that met some guards before. -/
def Passage.after (guards : List γ) (p : Passage γ α σ) : Passage γ α σ :=
  { p with guards := guards ++ p.guards }

/-! ## Running a router -/

section Walk

variable (R : Reading σ)

/-- The parameters in the path, if it has the shape; a last empty segment is passed over. -/
def takes : List Segment → List σ → Option (List σ)
  | [], [] => some []
  | [], [x] => if R.blank x then some [] else none
  | [], _ :: _ :: _ => none
  | _ :: _, [] => none
  | .lit s :: shape, x :: path => if R.is s x then takes shape path else none
  | .param :: shape, x :: path => if R.blank x then none else (takes shape path).map (x :: ·)

/-- The parameters of a route's path; the route `/` takes the path `/` only. -/
def matchPath : List Segment → List σ → Option (List σ)
  | [], path => if path.isEmpty then some [] else none
  | shape, path => takes R shape path

/-- What is left of the path under which a router is mounted. The slash after it is not part of
what is left, nor is a second one. -/
def below : List σ → List σ
  | [] => []
  | [x] => if R.blank x then [] else [x]
  | [x, y] => if R.blank x then (if R.blank y then [] else [y]) else [x, y]
  | x :: path => if R.blank x then path else x :: path

/-- The path within a router that is mounted under the segment. -/
def enter (segment : String) : List σ → Option (List σ)
  | [] => none
  | x :: path => if R.is segment x then some (below R path) else none

/-- The way of a request through a router, under the assumptions above. -/
def walk : Router γ α → Method → List σ → Passage γ α σ
  | .done, _, _ => ⟨[], .notFound⟩
  | .route method shape guards endpoint rest, m, path =>
      match matchPath R shape path with
      | none => walk rest m path
      | some raw =>
          -- the parameters are decoded before the method is looked at
          match raw.mapM R.decode with
          | none => ⟨[], .malformed⟩
          | some params =>
              if m.takenBy method then ⟨guards, .endpoint endpoint params⟩ else walk rest m path
  | .use guard rest, m, path => (walk rest m path).after [guard]
  | .mount segment inner rest, m, path =>
      match enter R segment path with
      | none => walk rest m path
      | some path' =>
          match walk inner m path' with
          | ⟨guards, .notFound⟩ => (walk rest m path).after guards
          | passage => passage

end Walk

/-! ## What is known without the path -/

/-- The literals that a router compares segments with. -/
def literals : Router γ α → List String
  | .done => []
  | .route _ shape _ _ rest =>
      (shape.filterMap fun | .lit s => some s | .param => none) ++ literals rest
  | .use _ rest => literals rest
  | .mount segment inner rest => segment :: literals inner ++ literals rest

/-- A path whose first segment is `known`, if it is, may have the shape. -/
def possible (known : Option String) : List Segment → Bool
  | [] => known.isNone
  | .lit s :: _ => known.all (· = s)
  | .param :: _ => true

/-- The guards that a request can have met when no layer has taken it; `known` is its first segment,
if it is known. -/
def falls (known : Option String) : Router γ α → List (List γ)
  | .done => [[]]
  | .route _ _ _ _ rest => falls known rest
  | .use guard rest => (falls known rest).map (guard :: ·)
  | .mount segment inner rest =>
      (if known.all (· = segment) then
        (falls none inner).flatMap fun gs => (falls (some segment) rest).map (gs ++ ·) else []) ++
      if known = some segment then [] else falls known rest

/-- An endpoint with its method, the guards before it and the number of its parameters. Without an
endpoint, the guards that a request can have met when a parameter could not be decoded. -/
structure Entry (γ α : Type) where
  guards : List γ
  method : Method
  arity : ℕ
  endpoint : Option α
  deriving DecidableEq, Repr

def Entry.after (gs : List γ) (e : Entry γ α) : Entry γ α := { e with guards := gs ++ e.guards }

/-- The endpoints of a router with the guards that a request can have met there. -/
def entries (known : Option String) : Router γ α → List (Entry γ α)
  | .done => []
  | .route method shape guards endpoint rest =>
      (if possible known shape then
        [⟨guards, method, shape.count .param, some endpoint⟩, ⟨[], method, 0, none⟩] else []) ++
      entries known rest
  | .use guard rest => (entries known rest).map (Entry.after [guard])
  | .mount segment inner rest =>
      (if known.all (· = segment) then
        entries none inner ++ (falls none inner).flatMap fun gs =>
          (entries (some segment) rest).map (Entry.after gs) else []) ++
      if known = some segment then [] else entries known rest

section Static

variable {R : Reading σ}

theorem takes_length {shape : List Segment} {path params : List σ}
    (h : takes R shape path = some params) : params.length = shape.count .param := by
  induction shape generalizing path params with
  | nil =>
      rcases path with _ | ⟨x, _ | ⟨y, path⟩⟩
      · cases h
        rfl
      · simp only [takes] at h
        split at h <;> cases h
        rfl
      · cases h
  | cons segment shape ih =>
      rcases path with _ | ⟨x, path⟩
      · cases h
      · cases segment with
        | lit s =>
            simp only [takes] at h
            split at h
            · rw [ih h, List.count_cons_of_ne (by simp)]
            · cases h
        | param =>
            simp only [takes] at h
            split at h
            · cases h
            · obtain ⟨params', hparams', rfl⟩ := Option.map_eq_some_iff.1 h
              rw [List.length_cons, ih hparams', List.count_cons_self]

theorem matchPath_length {shape : List Segment} {path params : List σ}
    (h : matchPath R shape path = some params) : params.length = shape.count .param := by
  cases shape with
  | nil =>
      simp only [matchPath] at h
      split at h <;> cases h
      rfl
  | cons segment shape => exact takes_length h

theorem length_of_mapM {l l' : List σ} {f : σ → Option σ} (h : l.mapM f = some l') :
    l'.length = l.length := by
  induction l generalizing l' with
  | nil =>
      cases h
      rfl
  | cons x l ih =>
      simp only [List.mapM_cons, Option.bind_eq_bind, Option.bind_eq_some_iff] at h
      obtain ⟨y, -, ys, hys, hl'⟩ := h
      cases hl'
      rw [List.length_cons, List.length_cons, ih hys]

/-- No segment is two of the literals. -/
def Separates (R : Reading σ) (lits : List String) : Prop :=
  ∀ s ∈ lits, ∀ s' ∈ lits, ∀ x, R.is s x = true → R.is s' x = true → s = s'

/-- The first segment of the path is `known`, if that is given. -/
def Begins (R : Reading σ) (known : Option String) (path : List σ) : Prop :=
  ∀ k ∈ known, ∃ x ∈ path.head?, R.is k x = true

/-- What `entries` and `falls` say about one request. -/
def Passage.Foreseen (known : Option String) (r : Router γ α) (m : Method) (p : Passage γ α σ) :
    Prop :=
  match p.target with
  | .endpoint a params => ∃ e ∈ entries known r, e.endpoint = some a ∧ e.guards = p.guards ∧
      params.length = e.arity ∧ m.takenBy e.method = true
  | .notFound => p.guards ∈ falls known r
  | .malformed => ∃ e ∈ entries known r, e.endpoint = none ∧ e.guards = p.guards

theorem Passage.Foreseen.after {known known' : Option String} {r r' : Router γ α} {m : Method}
    {p : Passage γ α σ} (h : p.Foreseen known r m) (gs : List γ)
    (he : ∀ e ∈ entries known r, e.after gs ∈ entries known' r')
    (hf : ∀ fs ∈ falls known r, gs ++ fs ∈ falls known' r') :
    (p.after gs).Foreseen known' r' m := by
  obtain ⟨guards, target⟩ := p
  cases target with
  | endpoint a params =>
      obtain ⟨e, hmem, ha, hguards, harity, hmethod⟩ := h
      exact ⟨e.after gs, he e hmem, ha, congrArg (gs ++ ·) hguards, harity, hmethod⟩
  | notFound => exact hf _ h
  | malformed =>
      obtain ⟨e, hmem, hnone, hguards⟩ := h
      exact ⟨e.after gs, he e hmem, hnone, congrArg (gs ++ ·) hguards⟩

/-- A layer that lets a request go on adds nothing to it. -/
theorem Passage.Foreseen.mono {known : Option String} {r r' : Router γ α} {m : Method}
    {p : Passage γ α σ} (h : p.Foreseen known r m) (he : entries known r ⊆ entries known r')
    (hf : falls known r ⊆ falls known r') : p.Foreseen known r' m :=
  h.after [] (fun _ hmem => he hmem) fun _ hmem => hf hmem

variable {lits : List String} {known : Option String} {path : List σ}

theorem known_eq (hsep : Separates R lits) (hknown : ∀ k ∈ known, k ∈ lits)
    (hbegins : Begins R known path) {s : String} (hs : s ∈ lits) {x : σ}
    (hx : path.head? = some x) (his : R.is s x = true) : known.all (· = s) = true := by
  cases known with
  | none => rfl
  | some k =>
      obtain ⟨y, hy, hk⟩ := hbegins k rfl
      rw [hx] at hy
      cases hy
      simpa using hsep k (hknown k rfl) s hs x hk his

theorem possible_of_matchPath (hsep : Separates R lits) (hknown : ∀ k ∈ known, k ∈ lits)
    (hbegins : Begins R known path) {shape : List Segment} {params : List σ}
    (hshape : ∀ s, .lit s ∈ shape → s ∈ lits) (h : matchPath R shape path = some params) :
    possible known shape = true := by
  rcases shape with _ | ⟨_ | _, shape⟩
  · -- the path is empty, so it has no first segment
    simp only [matchPath] at h
    split at h
    · rename_i hempty
      cases known with
      | none => rfl
      | some k =>
          obtain ⟨x, hx, -⟩ := hbegins k rfl
          rw [List.isEmpty_iff.1 hempty] at hx
          cases hx
    · cases h
  · rename_i s
    rcases path with _ | ⟨x, path⟩
    · cases h
    · simp only [matchPath, takes] at h
      split at h
      · rename_i his
        exact known_eq hsep hknown hbegins (hshape s List.mem_cons_self) rfl his
      · cases h
  · rfl

theorem enter_eq_some {segment : String} {path' : List σ} (h : enter R segment path = some path') :
    ∃ x, path.head? = some x ∧ R.is segment x = true := by
  rcases path with _ | ⟨x, path⟩
  · cases h
  · simp only [enter] at h
    split at h
    · exact ⟨x, rfl, ‹_›⟩
    · cases h

theorem known_ne_of_enter_eq_none (hbegins : Begins R known path) {segment : String}
    (h : enter R segment path = none) : known ≠ some segment := by
  rintro rfl
  obtain ⟨x, hx, his⟩ := hbegins segment rfl
  rcases path with _ | ⟨y, path⟩
  · cases hx
  · cases hx
    simp [enter, his] at h

/-- A route ends the request or lets it go on. -/
theorem foreseen_route {method : Method} {shape : List Segment} {guards : List γ} {endpoint : α}
    {rest : Router γ α} {m : Method} (hrest : (walk R rest m path).Foreseen known rest m)
    (hpossible : ∀ params, matchPath R shape path = some params → possible known shape = true) :
    (walk R (.route method shape guards endpoint rest) m path).Foreseen known
      (.route method shape guards endpoint rest) m := by
  have hon : (walk R rest m path).Foreseen known (.route method shape guards endpoint rest) m :=
    hrest.mono (List.subset_append_right _ _) (List.Subset.refl _)
  simp only [walk]
  split
  · exact hon
  · rename_i raw hraw
    split
    · refine ⟨⟨[], method, 0, none⟩, ?_, rfl, rfl⟩
      rw [entries, if_pos (hpossible raw hraw)]
      exact List.mem_cons_of_mem _ List.mem_cons_self
    · rename_i params hparams
      split
      · rename_i hmethod
        refine ⟨⟨guards, method, shape.count .param, some endpoint⟩, ?_, rfl, rfl, ?_, hmethod⟩
        · rw [entries, if_pos (hpossible raw hraw)]
          exact List.mem_cons_self
        · rw [length_of_mapM hparams, matchPath_length hraw]
      · exact hon

/-- A request that enters a mounted router ends there or falls through it. -/
theorem foreseen_mount {segment : String} {inner rest : Router γ α} {m : Method} {path' : List σ}
    (hpath' : enter R segment path = some path') (hall : known.all (· = segment) = true)
    (hin : (walk R inner m path').Foreseen none inner m)
    (hpast : (walk R rest m path).Foreseen (some segment) rest m) :
    (walk R (.mount segment inner rest) m path).Foreseen known (.mount segment inner rest) m := by
  simp only [walk, hpath']
  cases hwalk : walk R inner m path' with
  | mk guards target =>
      rw [hwalk] at hin
      have hentries : entries none inner ⊆ entries known (.mount segment inner rest) := by
        rw [entries, if_pos hall]
        exact List.subset_append_of_subset_left _ (List.subset_append_left _ _)
      cases target with
      | endpoint a params =>
          obtain ⟨e, hmem, he⟩ := hin
          exact ⟨e, hentries hmem, he⟩
      | malformed =>
          obtain ⟨e, hmem, he⟩ := hin
          exact ⟨e, hentries hmem, he⟩
      | notFound =>
          -- the guards that were passed on the way stay passed
          refine hpast.after _ (fun e he => ?_) fun fs hfs => ?_
          · rw [entries, if_pos hall]
            exact List.mem_append_left _ (List.mem_append_right _
              (List.mem_flatMap.2 ⟨guards, hin, List.mem_map_of_mem he⟩))
          · rw [falls, if_pos hall]
            exact List.mem_append_left _
              (List.mem_flatMap.2 ⟨guards, hin, List.mem_map_of_mem hfs⟩)

/-- A request ends up where the router was said to lead. -/
theorem walk_foreseen {r : Router γ α} (hsep : Separates R lits) (hlits : literals r ⊆ lits)
    (hknown : ∀ k ∈ known, k ∈ lits) (hbegins : Begins R known path) (m : Method) :
    (walk R r m path).Foreseen known r m := by
  induction r generalizing path known with
  | done => exact List.mem_singleton_self _
  | route method shape guards endpoint rest ih =>
      have hrest : literals rest ⊆ lits :=
        List.Subset.trans (List.subset_append_right _ _) hlits
      refine foreseen_route (ih hrest hknown hbegins) ?_
      intro params hparams
      refine possible_of_matchPath hsep hknown hbegins (fun s hs => hlits ?_) hparams
      exact List.mem_append_left _ (List.mem_filterMap.2 ⟨_, hs, rfl⟩)
  | use guard rest ih =>
      exact (ih hlits hknown hbegins).after _ (fun e he => List.mem_map_of_mem he) fun fs hfs =>
        List.mem_map_of_mem hfs
  | mount segment inner rest ihinner ih =>
      have hrest : literals rest ⊆ lits :=
        List.Subset.trans (List.subset_append_right _ _) hlits
      have hinner : literals inner ⊆ lits :=
        List.Subset.trans (List.subset_append_of_subset_left _ (List.subset_cons_self _ _)) hlits
      have hsegment : segment ∈ lits := hlits List.mem_cons_self
      cases henter : enter R segment path with
      | none =>
          have hne := known_ne_of_enter_eq_none hbegins henter
          simp only [walk, henter]
          refine (ih hrest hknown hbegins).mono ?_ ?_
          · rw [entries, if_neg hne]
            exact List.subset_append_right _ _
          · rw [falls, if_neg hne]
            exact List.subset_append_right _ _
      | some path' =>
          obtain ⟨x, hx, his⟩ := enter_eq_some henter
          refine foreseen_mount henter (known_eq hsep hknown hbegins hsegment hx his) ?_ ?_
          · exact ihinner hinner (by simp) (by simp [Begins])
          · -- the layers after it see a path that begins with the segment
            exact ih hrest (by simpa using hsegment) (by simpa [Begins] using ⟨x, hx, his⟩)

end Static

end InventoryHero.Routing
