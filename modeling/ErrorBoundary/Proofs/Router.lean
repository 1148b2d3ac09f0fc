import Mathlib.Data.List.Infix
import Mathlib.Data.List.MinMax
import Mathlib.Algebra.Group.Nat.Defs
import ErrorBoundary.Boundary.Server

/-!
# ErrorBoundary.Proofs.Router

Which route answers, and what it sees. The routes that answer at a path are those of one pattern,
the most special that matches it (`Router.mem_routesAt_iff`, `Router.path_eq_of_mem_routesAt`), and
there are some whenever one matches (`Router.routesAt_eq_nil_iff`). Every route of a server lies
below `/api`: it is found by the segments behind the root (`Server.Answers.path`), and what it sees
is the request below the root. Nothing else in the server answers with an error or leaves an event
(`Server.routed_cases`).
-/

namespace ErrorBoundary

/-! ## Paths -/

namespace Router

/-- A path with a first segment is that segment, or goes on with a path of the others. -/
theorem segments_cons {path root : String} {segs : List String}
    (h : segments path = some (root :: segs)) :
    (path.toList = '/' :: root.toList ∧ segs = []) ∨
      ∃ rest, path.toList = '/' :: root.toList ++ '/' :: rest ∧
        segments (String.ofList ('/' :: rest)) = some segs := by
  unfold segments at h
  split at h
  · rename_i cs hpath
    simp only [Option.some.injEq] at h
    by_cases hmem : '/' ∈ cs
    · obtain ⟨front, back, rfl, hfront⟩ := List.eq_append_cons_of_mem hmem
      rw [List.splitOn_append_cons_self_of_not_mem hfront, List.map_cons, List.cons.injEq] at h
      obtain ⟨rfl, rfl⟩ := h
      refine .inr ⟨back, ?_, ?_⟩
      · rw [hpath, String.toList_ofList]
        rfl
      · simp only [segments, String.toList_ofList]
    · rw [List.splitOn_eq_singleton hmem, List.map_singleton, List.cons.injEq] at h
      obtain ⟨rfl, rfl⟩ := h
      refine .inl ⟨?_, rfl⟩
      rw [hpath, String.toList_ofList]
  · cases h

end Router

/-! ## The most special pattern -/

namespace Route

variable {p q : List Segment} {segs : List String}

theorem isSome_capture?_literal {s t : String} :
    (capture? (.literal s :: p) (t :: segs)).isSome ↔ s = t ∧ (capture? p segs).isSome := by
  simp only [capture?]
  split
  · rename_i h
    simp [h]
  · rename_i h
    simp [h]

theorem isSome_capture?_capture {t : String} :
    (capture? (.capture :: p) (t :: segs)).isSome ↔ t ≠ "" ∧ (capture? p segs).isSome := by
  simp only [capture?]
  split
  · rename_i h
    simp [String.isEmpty_iff.mp h]
  · rename_i h
    simp [mt String.isEmpty_iff.mpr h]

/-- Two patterns of one path, neither of them more special, are one. -/
theorem eq_of_capture? (hp : (capture? p segs).isSome) (hq : (capture? q segs).isSome)
    (hpq : isMoreSpecial p q = false) (hqp : isMoreSpecial q p = false) : p = q := by
  induction segs generalizing p q with
  | nil =>
    cases p with
    | nil =>
      cases q with
      | nil => rfl
      | cons _ _ => simp [capture?] at hq
    | cons _ _ => simp [capture?] at hp
  | cons t segs ih =>
    match p, q with
    | [], _ => simp [capture?] at hp
    | _, [] => simp [capture?] at hq
    | .literal a :: p, .literal b :: q =>
      obtain ⟨rfl, hp'⟩ := isSome_capture?_literal.mp hp
      obtain ⟨rfl, hq'⟩ := isSome_capture?_literal.mp hq
      simp only [isMoreSpecial, beq_self_eq_true, Bool.true_and] at hpq hqp
      rw [ih hp' hq' hpq hqp]
    | .literal _ :: _, .capture :: _ => cases hpq
    | .capture :: _, .literal _ :: _ => cases hqp
    | .capture :: p, .capture :: q =>
      obtain ⟨_, hp'⟩ := isSome_capture?_capture.mp hp
      obtain ⟨_, hq'⟩ := isSome_capture?_capture.mp hq
      rw [ih hp' hq' hpq hqp]

/-- Of two patterns the more special one has the greater rank: its literals as binary digits. -/
def rank : List Segment → Nat
  | [] => 0
  | .literal _ :: p => 2 ^ p.length + rank p
  | .capture :: p => rank p

theorem rank_lt (p : List Segment) : rank p < 2 ^ p.length := by
  induction p with
  | nil => decide
  | cons s p ih =>
    rw [List.length_cons, Nat.pow_succ]
    cases s with
    | literal _ => simp only [rank]; omega
    | capture => simp only [rank]; omega

theorem length_of_capture? (h : (capture? p segs).isSome) : p.length = segs.length := by
  fun_induction capture? p segs <;> simp_all

theorem rank_lt_of_isMoreSpecial (hlen : p.length = q.length) (h : isMoreSpecial p q = true) :
    rank q < rank p := by
  fun_induction isMoreSpecial p q with
  | case1 _ p q =>
    have hq := rank_lt q
    simp only [List.length_cons, Nat.add_right_cancel_iff] at hlen
    simp only [rank, hlen]
    omega
  | case2 _ p _ q ih =>
    simp only [Bool.and_eq_true] at h
    simp only [List.length_cons, Nat.add_right_cancel_iff] at hlen
    simp only [rank, hlen, Nat.add_lt_add_iff_left]
    exact ih hlen h.2
  | case3 p q ih =>
    simp only [List.length_cons, Nat.add_right_cancel_iff] at hlen
    exact ih hlen h
  | case4 => cases h

end Route

namespace Router

variable {routes : List Route} {path method : String}

theorem mem_routesAt_iff {r : Route} {captured : List String} :
    (r, captured) ∈ routesAt routes path ↔ r ∈ routes ∧
      ∃ segs, segments path = some segs ∧ Route.capture? r.path segs = some captured ∧
        ∀ r' ∈ routes, (Route.capture? r'.path segs).isSome →
          Route.isMoreSpecial r'.path r.path = false := by
  unfold routesAt
  cases segments path with
  | none => simp
  | some segs =>
    simp only [List.mem_filter, List.mem_filterMap, List.all_eq_true, Option.map_eq_some_iff,
      Option.isSome_iff_exists, Prod.mk.injEq, Option.some.injEq, exists_eq_left',
      Bool.not_eq_true', forall_exists_index, and_imp]
    grind

/-- All routes that answer at a path have one pattern. -/
theorem path_eq_of_mem_routesAt {m n : Route × List String} (hm : m ∈ routesAt routes path)
    (hn : n ∈ routesAt routes path) : m.1.path = n.1.path := by
  obtain ⟨hmr, segs, hsegs, hmc, hmost⟩ := mem_routesAt_iff.mp hm
  obtain ⟨hnr, segs', hsegs', hnc, hmost'⟩ := mem_routesAt_iff.mp hn
  rw [hsegs] at hsegs'
  cases hsegs'
  have hmc : (Route.capture? m.1.path segs).isSome := Option.isSome_of_eq_some hmc
  have hnc : (Route.capture? n.1.path segs).isSome := Option.isSome_of_eq_some hnc
  exact Route.eq_of_capture? hmc hnc (hmost' _ hmr hmc) (hmost _ hnr hnc)

/-- No route answers at a path only where none matches it. -/
theorem routesAt_eq_nil_iff :
    routesAt routes path = [] ↔
      ∀ r ∈ routes, ∀ segs, segments path = some segs → Route.capture? r.path segs = none := by
  constructor
  · intro hnil r hr segs hsegs
    by_contra hsome
    -- one of the routes that match is of the greatest rank
    let found := routes.filter fun r => (Route.capture? r.path segs).isSome
    have hfound : found ≠ [] :=
      List.ne_nil_of_mem (List.mem_filter.mpr ⟨hr, Option.isSome_iff_ne_none.mpr hsome⟩)
    obtain ⟨top, htop⟩ := Option.ne_none_iff_exists'.mp
      (mt (List.argmax_eq_none (f := fun r : Route => Route.rank r.path)).mp hfound)
    obtain ⟨htopr, htopc⟩ := List.mem_filter.mp (List.argmax_mem htop)
    obtain ⟨captured, hcaptured⟩ := Option.isSome_iff_exists.mp htopc
    have hmem : (top, captured) ∈ routesAt routes path := by
      refine mem_routesAt_iff.mpr ⟨htopr, segs, hsegs, hcaptured, fun r' hr' hr'c => ?_⟩
      rw [Bool.eq_false_iff]
      intro hmore
      have hlen := (Route.length_of_capture? hr'c).trans (Route.length_of_capture? htopc).symm
      have hlt := Route.rank_lt_of_isMoreSpecial hlen hmore
      have hle := List.le_of_mem_argmax (List.mem_filter.mpr ⟨hr', hr'c⟩) htop
      omega
    rw [hnil] at hmem
    cases hmem
  · intro hnone
    rw [List.eq_nil_iff_forall_not_mem]
    rintro ⟨r, captured⟩ hmem
    obtain ⟨hr, segs, hsegs, hcapture, _⟩ := mem_routesAt_iff.mp hmem
    rw [hnone r hr segs hsegs] at hcapture
    cases hcapture

/-- What is found answers at the path, and to the method: as a route for it, or to `HEAD` as one
for `GET`. -/
theorem find?_eq_some {m : Route × List String} (h : find? routes path method = some m) :
    m ∈ routesAt routes path ∧
      (m.1.verb.name = method ∨ (method = "HEAD" ∧ m.1.verb = .get)) := by
  unfold find? serving? at h
  split at h
  · rename_i found hfound
    cases h
    exact ⟨List.mem_of_find?_eq_some hfound, .inl (by simpa using List.find?_some hfound)⟩
  · split at h
    · rename_i hhead
      exact ⟨List.mem_of_find?_eq_some h, .inr ⟨hhead, by simpa using List.find?_some h⟩⟩
    · cases h

/-- Where a route is found it answers; else nothing is raised and nothing logged. -/
theorem handler_eq (routes : List Route) (request : Request) :
    (∃ r captured, find? routes request.uri.path request.method = some (r, captured) ∧
      handler routes request = r.handler captured request) ∨
    (find? routes request.uri.path request.method = none ∧
      (handler routes request).events = [] ∧ (handler routes request).value.raised = none) := by
  unfold handler find?
  split
  · rename_i hnil
    rw [hnil]
    refine .inr ⟨?_, rfl, rfl⟩
    simp [serving?]
  · split
    · rename_i r captured hserving
      exact .inl ⟨r, captured, hserving, rfl⟩
    · rename_i hserving
      exact .inr ⟨hserving, rfl, rfl⟩

theorem handler_of_find? {r : Route} {captured : List String} {request : Request}
    (h : find? routes request.uri.path request.method = some (r, captured)) :
    handler routes request = r.handler captured request := by
  rcases handler_eq routes request with ⟨r', captured', hfind, heq⟩ | ⟨hnone, _⟩
  · rw [h] at hfind
    cases hfind
    exact heq
  · rw [h] at hnone
    cases hnone

end Router

theorem Uri.below_path {root : String} {u : Uri} {tail : List Char}
    (h : u.path.toList = '/' :: root.toList ++ tail) :
    (u.below root).path = if tail = [] then "/" else String.ofList tail := by
  have hroot : ('/' :: root.toList).isPrefixOf? u.path.toList = some tail :=
    List.isPrefixOf?_eq_some_iff_append_eq.mpr h.symm
  unfold below
  rw [hroot]
  cases tail with
  | nil => rfl
  | cons c tail => rfl

/-! ## Routes of a server -/

namespace Server

/-- The route, found below the root, that the path and the method of a request name. -/
structure Answers (routes : List Route) (request : Request) (r : Route)
    (captured : List String) : Prop where
  mem : r ∈ healthRoute :: routes
  found : Router.find? ((healthRoute :: routes).map (Route.under "api")) request.uri.path
    request.method = some (r.under "api", captured)

variable {routes : List Route} {request : Request} {r : Route} {captured : List String}

theorem routed_of_answers (h : Answers routes request r captured) :
    routed routes request = r.handler captured (request.below "api") := by
  unfold routed
  rw [Router.handler_of_find? h.found]
  rfl

/-- The path in front of the root is all of the path, and the route is found by what is behind. -/
theorem Answers.path (h : Answers routes request r captured) :
    (request.uri.path = "/api" ∧ (request.below "api").uri.path = "/" ∧
      Route.capture? r.path [] = some captured) ∨
    (request.uri.path = "/api" ++ (request.below "api").uri.path ∧
      ∃ segs, Router.segments (request.below "api").uri.path = some segs ∧
        Route.capture? r.path segs = some captured) := by
  obtain ⟨hmem, _⟩ := Router.find?_eq_some h.found
  obtain ⟨_, segs, hsegs, hcapture, _⟩ := Router.mem_routesAt_iff.mp hmem
  cases segs with
  | nil => cases hcapture
  | cons root segs =>
    have hroot : root = "api" ∧ Route.capture? r.path segs = some captured := by
      change (if "api" = root then Route.capture? r.path segs else none) = some captured at hcapture
      split at hcapture
      · rename_i hroot
        exact ⟨hroot.symm, hcapture⟩
      · cases hcapture
    obtain ⟨rfl, hcapture⟩ := hroot
    rcases Router.segments_cons hsegs with ⟨hpath, rfl⟩ | ⟨rest, hpath, hrest⟩
    · refine .inl ⟨?_, ?_, hcapture⟩
      · exact String.toList_inj.mp hpath
      · show (request.uri.below "api").path = "/"
        rw [Uri.below_path (hpath.trans (List.append_nil _).symm)]
        rfl
    · have hbelow : (request.below "api").uri.path = String.ofList ('/' :: rest) :=
        Uri.below_path hpath
      rw [hbelow]
      refine .inr ⟨?_, segs, hrest, hcapture⟩
      apply String.toList_inj.mp
      simp [hpath]

theorem routed_cases (routes : List Route) (request : Request) :
    (∃ r captured, Answers routes request r captured) ∨
      ((routed routes request).events = [] ∧ (routed routes request).value.raised = none) := by
  rcases Router.handler_eq ((healthRoute :: routes).map (Route.under "api")) request with
    ⟨r, captured, hfind, _⟩ | ⟨_, hquiet⟩
  · obtain ⟨hserved, _⟩ := Router.find?_eq_some hfind
    obtain ⟨hunder, _⟩ := Router.mem_routesAt_iff.mp hserved
    obtain ⟨r, hr, rfl⟩ := List.mem_map.mp hunder
    exact .inl ⟨r, captured, hr, hfind⟩
  · exact .inr hquiet

theorem raised_routed_iff {e : ApiError} :
    (routed routes request).value.raised = some e ↔
      ∃ r captured, Answers routes request r captured ∧
        (r.handler captured (request.below "api")).value.raised = some e := by
  constructor
  · intro h
    rcases routed_cases routes request with ⟨r, captured, hr⟩ | ⟨_, hnone⟩
    · rw [routed_of_answers hr] at h
      exact ⟨r, captured, hr, h⟩
    · rw [hnone] at h
      cases h
  · intro ⟨r, captured, hr, h⟩
    rw [routed_of_answers hr]
    exact h

end Server
end ErrorBoundary
