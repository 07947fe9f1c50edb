import Mathlib.Data.List.Perm.Subperm
import Mathlib.Data.List.Nodup
/-!
# Routes through a functional graph

At most one edge leaves a vertex, and an edge leads to a vertex or closes the route it stands on. A
walk follows the edges from a vertex and stops where none leaves, where one closes, or where a vertex
comes again. A graph is one route when a route visits every vertex once and takes every edge; the
walk from the vertex no edge leads to is then that route.
-/

namespace Route

variable {κ ε : Type*} (source : ε → κ) (target : ε → Option κ)

/-- The edges lead along the vertices, and the route stops at a vertex or is closed. -/
inductive Along : List κ → List ε → Option κ → Prop
  | stop (v : κ) : Along [v] [] (some v)
  | close {v : κ} {e : ε} (leaves : source e = v) (closes : target e = none) : Along [v] [e] none
  | step {v w : κ} {e : ε} {path : List κ} {edges : List ε} {stop : Option κ}
      (leaves : source e = v) (leads : target e = some w) (later : Along (w :: path) edges stop) :
      Along (v :: w :: path) (e :: edges) stop

/-- The graph of these vertices and edges is this one route. -/
structure Spans (vertices : List κ) (edges : List ε) (path : List κ) (taken : List ε)
    (stop : Option κ) : Prop where
  along : Along source target path taken stop
  once : path.Nodup
  visits : path.Perm vertices
  takes : taken.Perm edges

/-- What a walk finds. -/
inductive Found (κ ε : Type*)
  | cycle
  | route (path : List κ) (taken : List ε) (stop : Option κ)

/-- One more vertex and edge before what is found. -/
def Found.before (v : κ) (e : ε) : Found κ ε → Found κ ε
  | .cycle => .cycle
  | .route path taken stop => .route (v :: path) (e :: taken) stop

/-- The walk from a vertex, in so many rounds. -/
def walk [DecidableEq κ] (edge : κ → Option ε) : Nat → List κ → κ → Option (Found κ ε)
  | 0, _, _ => none
  | rounds + 1, visited, v =>
    if v ∈ visited then some .cycle
    else match edge v with
      | none => some (.route [v] [] (some v))
      | some e =>
        match target e with
        | none => some (.route [v] [e] none)
        | some w => (walk edge rounds (v :: visited) w).map (.before v e)

variable {source target} {vertices path visited : List κ} {edges taken : List ε} {stop : Option κ}
  {v w : κ} {e : ε}

/-! ## Routes -/

theorem Along.ne_nil (along : Along source target path taken stop) : path ≠ [] := by
  cases along <;> simp

/-- The edges leave the vertices in order. -/
theorem Along.sources (along : Along source target path taken stop) :
    taken.map source <+: path := by
  induction along with
  | stop => exact List.nil_prefix
  | close leaves => simp [leaves]
  | step leaves _ _ ih => simpa [leaves] using ih

/-- The edges lead to every vertex but the first. -/
theorem Along.targets (along : Along source target path taken stop) :
    taken.filterMap target = path.tail := by
  induction along with
  | stop => rfl
  | close _ closes => simp [closes]
  | step _ leads _ ih => simpa [leads] using ih

/-- A route that stops has a vertex more than edges, a closed one as many. -/
theorem Along.length (along : Along source target path taken stop) :
    path.length = taken.length + if stop.isSome then 1 else 0 := by
  induction along with
  | stop => rfl
  | close => rfl
  | step _ _ _ ih =>
    rw [List.length_cons, ih, List.length_cons]
    omega

/-- A route stops at its last vertex, which no edge of it leaves. -/
theorem Along.stops (along : Along source target path taken stop) (h : stop = some w) :
    path = taken.map source ++ [w] := by
  induction along with
  | stop => simpa using h
  | close => cases h
  | step leaves _ _ ih =>
    rw [ih h, List.map_cons, leaves]
    rfl

/-- A closed route ends with the edge that closes it. -/
theorem Along.closes (along : Along source target path taken stop) (member : e ∈ taken)
    (h : target e = none) : stop = none ∧ taken.getLast? = some e := by
  induction along with
  | stop => cases member
  | close =>
    rw [List.mem_singleton.mp member]
    exact ⟨rfl, rfl⟩
  | step _ leads later ih =>
    rcases List.mem_cons.mp member with rfl | member
    · rw [leads] at h
      cases h
    · obtain ⟨closed, last⟩ := ih member
      refine ⟨closed, ?_⟩
      rw [List.getLast?_cons, last]
      rfl

/-- A closed route has an edge that closes it. -/
theorem Along.closed (along : Along source target path taken stop) (h : stop = none) :
    ∃ e ∈ taken, target e = none := by
  induction along with
  | stop => cases h
  | close _ closes => exact ⟨_, List.mem_singleton_self _, closes⟩
  | step _ _ _ ih =>
    obtain ⟨e, member, closes⟩ := ih h
    exact ⟨e, List.mem_cons_of_mem _ member, closes⟩

/-- One more edge, from where a route stops. -/
theorem Along.snoc (along : Along source target path taken (some v)) (leaves : source e = v)
    (leads : target e = some w) : Along source target (path ++ [w]) (taken ++ [e]) (some w) := by
  generalize stops : some v = stop at along
  induction along with
  | stop u =>
    cases stops
    exact .step leaves leads (.stop w)
  | close => cases stops
  | step first next _ ih => exact .step first next (ih stops)

/-! ## Graphs that are one route -/

section Spans

variable (spans : Spans source target vertices edges path taken stop)

include spans

theorem Spans.sources_nodup : (edges.map source).Nodup :=
  ((spans.takes.map source).nodup_iff).mp (spans.once.sublist spans.along.sources.sublist)

/-- Every edge leaves a vertex. -/
theorem Spans.source_mem (member : e ∈ edges) : source e ∈ vertices :=
  spans.visits.subset (spans.along.sources.subset
    (List.mem_map_of_mem (spans.takes.mem_iff.mpr member)))

/-- Every edge leads to a vertex, and none to the first. -/
theorem Spans.target_mem (member : e ∈ edges) (leads : target e = some w) :
    w ∈ vertices ∧ path.head? ≠ some w := by
  have led : w ∈ path.tail := by
    rw [← spans.along.targets]
    exact List.mem_filterMap.mpr ⟨e, spans.takes.mem_iff.mpr member, leads⟩
  cases path with
  | nil => cases led
  | cons first rest =>
    refine ⟨spans.visits.subset (List.mem_cons_of_mem _ led), ?_⟩
    intro same
    cases same
    exact (List.nodup_cons.mp spans.once).1 led

/-- No two edges lead to one vertex. -/
theorem Spans.targets_nodup : (edges.filterMap target).Nodup := by
  refine ((spans.takes.filterMap target).nodup_iff).mp ?_
  rw [spans.along.targets]
  exact spans.once.tail

/-- The first vertex is the one that no edge leads to. -/
theorem Spans.genesis (member : v ∈ vertices) :
    v ∉ edges.filterMap target ↔ path.head? = some v := by
  rw [← (spans.takes.filterMap target).mem_iff, spans.along.targets]
  have once := spans.once
  have visited := spans.visits.mem_iff.mpr member
  cases path with
  | nil => cases visited
  | cons first rest =>
    rw [List.tail_cons, List.head?_cons, Option.some.injEq]
    constructor
    · intro absent
      exact ((List.mem_cons.mp visited).resolve_right absent).symm
    · intro same
      cases same
      exact (List.nodup_cons.mp once).1

/-- The route stops at a vertex. -/
theorem Spans.stop_mem (h : stop = some w) : w ∈ vertices := by
  refine spans.visits.subset ?_
  rw [spans.along.stops h]
  exact List.mem_append_right _ (List.mem_singleton_self w)

/-- No edge leaves the vertex the route stops at. -/
theorem Spans.terminal (h : stop = some w) (member : e ∈ edges) : source e ≠ w := by
  intro same
  have once := spans.once
  rw [spans.along.stops h] at once
  refine List.disjoint_of_nodup_append once ?_ (List.mem_singleton_self w)
  exact same ▸ List.mem_map_of_mem (spans.takes.mem_iff.mpr member)

theorem Spans.length : vertices.length = edges.length + if stop.isSome then 1 else 0 := by
  rw [← spans.visits.length_eq, ← spans.takes.length_eq, spans.along.length]

/-- The vertices and edges may be listed in any order. -/
theorem Spans.perm {vertices' : List κ} {edges' : List ε} (sameVertices : vertices.Perm vertices')
    (sameEdges : edges.Perm edges') : Spans source target vertices' edges' path taken stop :=
  ⟨spans.along, spans.once, spans.visits.trans sameVertices, spans.takes.trans sameEdges⟩

omit spans in
/-- A vertex alone is a route. -/
theorem spans_singleton (v : κ) : Spans source target [v] [] [v] [] (some v) :=
  ⟨.stop v, List.nodup_singleton v, .refl _, .refl _⟩

/-- One more vertex, and the edge that leads to it from where the route stops. -/
theorem Spans.snoc (stops : stop = some v) (leaves : source e = v) (leads : target e = some w)
    (fresh : w ∉ vertices) :
    Spans source target (vertices ++ [w]) (edges ++ [e]) (path ++ [w]) (taken ++ [e]) (some w) := by
  subst stops
  refine ⟨spans.along.snoc leaves leads, ?_, spans.visits.append_right _,
    spans.takes.append_right _⟩
  refine List.nodup_append.mpr ⟨spans.once, List.nodup_singleton w, ?_⟩
  intro u visited other last same
  rw [List.mem_singleton.mp last] at same
  exact fresh (spans.visits.mem_iff.mp (same ▸ visited))

end Spans

/-! ## Walks -/

section Walks

variable [DecidableEq κ] {edge : κ → Option ε} {rounds : Nat}

/-- What a walk finds is a route from its vertex through unvisited ones, with every edge that
leaves them. -/
theorem along_of_walk (leaves : ∀ v e, edge v = some e → source e = v)
    (found : walk target edge rounds visited v = some (.route path taken stop)) :
    Along source target path taken stop ∧ path.head? = some v ∧ path.Nodup ∧
      (∀ u ∈ path, u ∉ visited) ∧ (∀ u ∈ path, ∀ e, edge u = some e → e ∈ taken) ∧
      ∀ e ∈ taken, edge (source e) = some e := by
  induction rounds generalizing visited v path taken stop with
  | zero => cases found
  | succ rounds ih =>
    rw [walk] at found
    by_cases again : v ∈ visited
    · rw [if_pos again] at found
      cases found
    rw [if_neg again] at found
    cases next : edge v with
    | none =>
      simp only [next] at found
      cases found
      exact ⟨.stop v, rfl, List.nodup_singleton v, by simpa using again, by simp [next], by simp⟩
    | some e =>
      simp only [next] at found
      have source_e := leaves v e next
      cases leads : target e with
      | none =>
        simp only [leads] at found
        cases found
        exact ⟨.close source_e leads, rfl, List.nodup_singleton v, by simpa using again,
          by simp [next], by simp [source_e, next]⟩
      | some w =>
        simp only [leads] at found
        obtain ⟨later, foundLater, same⟩ := Option.map_eq_some_iff.mp found
        cases later with
        | cycle => cases same
        | route rest edges stop =>
          cases same
          obtain ⟨along, first, once, fresh, all, own⟩ := ih foundLater
          cases rest with
          | nil => cases first
          | cons head rest =>
            cases first
            refine ⟨.step source_e leads along, rfl, ?_, ?_, ?_, ?_⟩
            · refine List.nodup_cons.mpr ⟨?_, once⟩
              intro member
              exact fresh v member List.mem_cons_self
            · intro u member
              rcases List.mem_cons.mp member with rfl | member
              · exact again
              · intro old
                exact fresh u member (List.mem_cons_of_mem _ old)
            · intro u member f leavesU
              rcases List.mem_cons.mp member with rfl | member
              · rw [next] at leavesU
                cases leavesU
                exact List.mem_cons_self
              · exact List.mem_cons_of_mem _ (all u member f leavesU)
            · intro f member
              rcases List.mem_cons.mp member with rfl | member
              · rw [source_e, next]
              · exact own f member

/-- A route that takes the edges of its vertices is what the walk finds. -/
theorem walk_of_along (along : Along source target path taken stop) (first : path.head? = some v)
    (once : path.Nodup) (fresh : ∀ u ∈ path, u ∉ visited)
    (own : ∀ e ∈ taken, edge (source e) = some e) (terminal : ∀ w ∈ stop, edge w = none)
    (enough : path.length ≤ rounds) :
    walk target edge rounds visited v = some (.route path taken stop) := by
  induction along generalizing rounds visited v with
  | stop u =>
    cases first
    obtain ⟨rounds, rfl⟩ := Nat.exists_eq_add_one.mpr enough
    rw [walk, if_neg (fresh u (List.mem_singleton_self u)), terminal u rfl]
  | @close u e leaves closes =>
    cases first
    obtain ⟨rounds, rfl⟩ := Nat.exists_eq_add_one.mpr enough
    have next := own e (List.mem_singleton_self e)
    rw [leaves] at next
    rw [walk, if_neg (fresh u (List.mem_singleton_self u)), next]
    simp only [closes]
  | @step u w e path edges stop leaves leads later ih =>
    cases first
    have positive : 0 < rounds := Nat.lt_of_lt_of_le (Nat.succ_pos _) enough
    obtain ⟨rounds, rfl⟩ := Nat.exists_eq_add_one.mpr positive
    obtain ⟨distinct, once⟩ := List.nodup_cons.mp once
    have next := own e List.mem_cons_self
    rw [leaves] at next
    have rest : walk target edge rounds (u :: visited) w =
        some (.route (w :: path) edges stop) := by
      refine ih rfl once ?_ ?_ terminal (Nat.le_of_succ_le_succ enough)
      · intro x member again
        rcases List.mem_cons.mp again with rfl | again
        · exact distinct member
        · exact fresh x (List.mem_cons_of_mem _ member) again
      · intro f member
        exact own f (List.mem_cons_of_mem _ member)
    rw [walk, if_neg (fresh u List.mem_cons_self), next]
    simp only [leads, rest]
    rfl

/-- **A walk ends**: it visits a vertex at most once more than there are vertices. -/
theorem walk_ends (inside : ∀ u e w, edge u = some e → target e = some w → w ∈ vertices)
    (start : v ∈ vertices) (old : visited ⊆ vertices) (once : visited.Nodup)
    (enough : vertices.length < rounds + visited.length) :
    ∃ found, walk target edge rounds visited v = some found := by
  induction rounds generalizing visited v with
  | zero =>
    have bound := (once.subperm old).length_le
    omega
  | succ rounds ih =>
    rw [walk]
    by_cases again : v ∈ visited
    · exact ⟨_, if_pos again⟩
    rw [if_neg again]
    cases next : edge v with
    | none => exact ⟨_, rfl⟩
    | some e =>
      cases leads : target e with
      | none =>
        simp only [leads]
        exact ⟨_, rfl⟩
      | some w =>
        obtain ⟨found, hfound⟩ := ih (inside v e w next leads)
          (List.cons_subset.mpr ⟨start, old⟩) (List.nodup_cons.mpr ⟨again, once⟩)
          (by rw [List.length_cons]; omega)
        simp only [leads, hfound]
        exact ⟨_, rfl⟩

/-- More rounds find the same. -/
theorem walk_mono {more : Nat} {found : Found κ ε} (le : rounds ≤ more)
    (h : walk target edge rounds visited v = some found) :
    walk target edge more visited v = some found := by
  induction rounds generalizing more visited v found with
  | zero => cases h
  | succ rounds ih =>
    obtain ⟨more, rfl⟩ := Nat.exists_eq_add_one.mpr (Nat.lt_of_lt_of_le (Nat.succ_pos _) le)
    rw [walk] at h ⊢
    by_cases again : v ∈ visited
    · rwa [if_pos again] at h ⊢
    rw [if_neg again] at h ⊢
    cases next : edge v with
    | none => simpa only [next] using h
    | some e =>
      simp only [next] at h
      cases leads : target e with
      | none => simpa only [leads] using h
      | some w =>
        simp only [leads] at h
        obtain ⟨later, foundLater, same⟩ := Option.map_eq_some_iff.mp h
        simp only [leads, ih (Nat.le_of_succ_le_succ le) foundLater]
        exact congrArg some same

variable (edge_iff : ∀ v e, edge v = some e ↔ e ∈ edges ∧ source e = v)

include edge_iff

/-- A walk that visits every vertex is the one route of the graph. -/
theorem spans_of_walk (distinct : vertices.Nodup) (sources : (edges.map source).Nodup)
    (inside : ∀ e ∈ edges, source e ∈ vertices)
    (found : walk target edge rounds [] v = some (.route path taken stop))
    (all : ∀ u, u ∈ path ↔ u ∈ vertices) : Spans source target vertices edges path taken stop := by
  obtain ⟨along, -, once, -, leaving, own⟩ :=
    along_of_walk (fun v e h => ((edge_iff v e).mp h).2) found
  refine ⟨along, once, (List.perm_ext_iff_of_nodup once distinct).mpr all, ?_⟩
  have takenSources : (taken.map source).Nodup := once.sublist along.sources.sublist
  refine (List.perm_ext_iff_of_nodup takenSources.of_map sources.of_map).mpr ?_
  intro e
  constructor
  · intro member
    exact ((edge_iff _ _).mp (own e member)).1
  · intro member
    exact leaving (source e) ((all _).mpr (inside e member)) e ((edge_iff _ _).mpr ⟨member, rfl⟩)

/-- The walk through a graph that is one route finds it. -/
theorem walk_of_spans (spans : Spans source target vertices edges path taken stop)
    (first : path.head? = some v) (enough : vertices.length ≤ rounds) :
    walk target edge rounds [] v = some (.route path taken stop) := by
  refine walk_of_along spans.along first spans.once (fun _ _ => List.not_mem_nil) ?_ ?_ ?_
  · intro e member
    exact (edge_iff _ _).mpr ⟨spans.takes.mem_iff.mp member, rfl⟩
  · intro w stops
    cases next : edge w with
    | none => rfl
    | some e =>
      obtain ⟨member, leaves⟩ := (edge_iff w e).mp next
      exact absurd leaves (spans.terminal stops member)
  · rw [spans.visits.length_eq]
    exact enough

end Walks

end Route
