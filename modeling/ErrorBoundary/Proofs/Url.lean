import ErrorBoundary.Boundary.Layers
import ErrorBoundary.Proofs.Disclosure
import ErrorBoundary.Proofs.Uri

/-!
# ErrorBoundary.Proofs.Url

The URL that the log names a request by. It is made of the target without its query and, where the
target names no authority, of the first `host` header (`url_of_some`, `url_of_none`); the ways out
for parts that make no target are never taken. Requests that agree on these parts have the same URL
(`Request.url_congr`).

* `Request.first?`   — the first header of a name, readable or not.
* `Request.SameSite` — two requests that agree on what the URL is made of.
-/

namespace ErrorBoundary
namespace Request

def first? (r : Request) (name : String) : Option String :=
  (r.headers.find? fun h => h.1 = name).map (·.2)

theorem header?_eq_some_iff {r : Request} {name v : String} :
    r.header? name = some v ↔ r.first? name = some v ∧ v.toList.all isReadable = true := by
  unfold header? first?
  cases r.headers.find? fun h => h.1 = name with
  | none => simp
  | some h =>
    obtain ⟨_, value⟩ := h
    show (if value.toList.all isReadable then some value else none) = some v ↔
      some value = some v ∧ v.toList.all isReadable = true
    rw [Option.ite_none_right_eq_some]
    constructor
    · intro ⟨hv, h⟩
      cases h
      exact ⟨rfl, hv⟩
    · intro ⟨h, hv⟩
      cases h
      exact ⟨hv, rfl⟩

/-! ## The authority -/

theorem authority?_eq_some_iff {r : Request} {a : String} :
    r.authority? = some a ↔
      r.target.authority = some a ∨
        (r.target.authority = none ∧ r.first? "host" = some a ∧
          a.toList.all isReadable = true ∧ Uri.isAuthority a.toList = true) := by
  unfold authority?
  cases r.target.authority with
  | some b => simp
  | none =>
    show ((r.header? "host").bind Uri.authorityOf?) = some a ↔ _
    rw [Option.bind_eq_some_iff]
    constructor
    · intro ⟨b, hb, hauthority⟩
      obtain ⟨rfl, ha⟩ := Uri.authorityOf?_eq_some_iff.mp hauthority
      obtain ⟨hfirst, hall⟩ := header?_eq_some_iff.mp hb
      exact .inr ⟨rfl, hfirst, hall, ha⟩
    · rintro (h | ⟨_, hfirst, hall, ha⟩)
      · cases h
      · exact ⟨a, header?_eq_some_iff.mpr ⟨hfirst, hall⟩,
          Uri.authorityOf?_eq_some_iff.mpr ⟨rfl, ha⟩⟩

theorem isAuthority_of_authority? {r : Request} (hr : r.target.IsValid) {a : String}
    (h : r.authority? = some a) : Uri.isAuthority a.toList = true := by
  rcases authority?_eq_some_iff.mp h with h | ⟨_, _, _, h⟩
  · exact hr.authority a h
  · exact h

/-! ## The URL -/

section Url

variable {r : Request}

theorem url_of_some (hr : r.target.IsValid) {a : String} (h : r.authority? = some a) :
    r.url = ⟨some (r.target.scheme.getD "http"), some a, Uri.orRoot r.target.path, none⟩ := by
  unfold url
  rw [h]
  show (Uri.ofParts? _ _ _).getD _ = _
  rw [Uri.ofParts?_absolute hr.path, Option.getD_some]

theorem url_of_none (hr : r.target.IsValid) (h : r.authority? = none) :
    r.url = ⟨none, none, r.target.path, none⟩ := by
  unfold url pathUrl
  rw [h]
  show (Uri.ofParts? _ _ _).getD _ = _
  rw [Uri.ofParts?_path hr.path, Option.getD_some]

theorem authority_url (hr : r.target.IsValid) : r.url.authority = r.authority? := by
  cases h : r.authority? with
  | none => rw [url_of_none hr h]
  | some a => rw [url_of_some hr h]

theorem query_url (hr : r.target.IsValid) : r.url.query = none := by
  cases h : r.authority? with
  | none => rw [url_of_none hr h]
  | some a => rw [url_of_some hr h]

/-- Behind an authority an empty path is written out. -/
theorem path_url (hr : r.target.IsValid) :
    r.url.path = if r.authority? = none then r.target.path else Uri.orRoot r.target.path := by
  cases h : r.authority? with
  | none => rw [url_of_none hr h, if_pos rfl]
  | some a => rw [url_of_some hr h, if_neg (by simp)]

/-- A path that is not empty goes into the URL as it is. -/
theorem path_url_of_ne (hr : r.target.IsValid) (hpath : r.target.path ≠ "") :
    r.url.path = r.target.path := by
  rw [path_url hr, Uri.orRoot_of_ne hpath, ite_self]

theorem path_url_of_empty (hr : r.target.IsValid) (hpath : r.target.path = "")
    (ha : r.url.authority ≠ none) : r.url.path = "/" := by
  rw [authority_url hr] at ha
  rw [path_url hr, if_neg ha, hpath]
  rfl

theorem isValid_url (hr : r.target.IsValid) : r.url.IsValid := by
  cases h : r.authority? with
  | none =>
    rw [url_of_none hr h]
    exact ⟨nofun, nofun, hr.path⟩
  | some a =>
    rw [url_of_some hr h]
    refine ⟨?_, ?_, Uri.orRoot_all hr.path⟩
    · intro s hs
      cases hs
      cases hscheme : r.target.scheme with
      | none => decide
      | some s => exact hr.scheme s hscheme
    · intro b hb
      cases hb
      exact isAuthority_of_authority? hr h

end Url

/-- Two requests that agree on what the URL is made of: the query is not part of it, and of the
headers at most the first `host` is. -/
structure SameSite (r r' : Request) : Prop where
  scheme : r.target.scheme = r'.target.scheme
  authority : r.target.authority = r'.target.authority
  path : r.target.path = r'.target.path
  host : r.target.authority = none → r.first? "host" = r'.first? "host"

theorem authority?_congr {r r' : Request} (h : r.SameSite r') : r.authority? = r'.authority? := by
  apply Option.ext
  intro a
  rw [authority?_eq_some_iff, authority?_eq_some_iff, ← h.authority]
  cases ha : r.target.authority with
  | some b => simp
  | none => rw [h.host ha]

theorem url_congr {r r' : Request} (h : r.SameSite r') : r.url = r'.url := by
  unfold url pathUrl
  rw [authority?_congr h, h.scheme, h.path]

theorem sameSite_of_front {r r' : Request} {front query query' : String}
    (hfront : '?' ∉ front.toList) (hquery : Uri.IsQueryString query.toList)
    (hquery' : Uri.IsQueryString query'.toList)
    (h : Uri.ofString? (front ++ query) = some r.target)
    (h' : Uri.ofString? (front ++ query') = some r'.target)
    (hhost : r.target.authority = none → r.first? "host" = r'.first? "host") :
    r.SameSite r' := by
  have heq : some { r.target with query := none } = some { r'.target with query := none } := by
    rw [← Uri.ofString?_dropQuery hfront hquery h, Uri.ofString?_dropQuery hfront hquery' h']
  simp only [Option.some.injEq, Uri.mk.injEq] at heq
  obtain ⟨hscheme, hauthority, hpath, _⟩ := heq
  exact ⟨hscheme, hauthority, hpath, hhost⟩

/-! ## What it names -/

/-- The URL names what the target names. It has no query. Its path is that of the target; where that
is empty a slash stands behind an authority. Its authority is that of the target, else the one that
the first `host` header names in readable text; with it comes the scheme of the target or `http`,
and without it there is the path and nothing else. Requests that differ in the query or in any other
header have the same URL and leave the same event. -/
theorem url_names_target {r : Request} (hr : (r.outerUri.getD r.uri).IsValid) :
    let target := r.outerUri.getD r.uri
    r.url.query = none ∧ '?' ∉ r.url.text.toList ∧
    (target.path ≠ "" → r.url.path = target.path) ∧
    (target.path = "" → r.url.authority ≠ none → r.url.path = "/") ∧
    (∀ a, r.url.authority = some a ↔
      target.authority = some a ∨
        (target.authority = none ∧ r.first? "host" = some a ∧
          a.toList.all isReadable = true ∧ Uri.isAuthority a.toList = true)) ∧
    (∀ a, r.url.authority = some a → r.url.scheme = some (target.scheme.getD "http")) ∧
    (r.url.authority = none → r.url = ⟨none, none, target.path, none⟩) ∧
    (∀ r' : Request, r.SameSite r' → r'.url = r.url ∧
      ∀ (t : Responder) (e : ApiError),
        (t.dispatch r'.url e).events = (t.dispatch r.url e).events) ∧
    (∀ (front query query' : String) (r' : Request), '?' ∉ front.toList →
      Uri.IsQueryString query.toList → Uri.IsQueryString query'.toList →
      Uri.ofString? (front ++ query) = some target →
      Uri.ofString? (front ++ query') = some (r'.outerUri.getD r'.uri) →
      (target.authority = none → r.first? "host" = r'.first? "host") →
      r'.url = r.url ∧
      ∀ (t : Responder) (e : ApiError),
        (t.dispatch r'.url e).events = (t.dispatch r.url e).events) := by
  intro target
  have hquery : r.url.query = none := query_url hr
  have hauthority : r.url.authority = r.authority? := authority_url hr
  have hsame : ∀ r' : Request, r.SameSite r' → r'.url = r.url ∧
      ∀ (t : Responder) (e : ApiError),
        (t.dispatch r'.url e).events = (t.dispatch r.url e).events := by
    intro r' h
    rw [url_congr h]
    exact ⟨rfl, fun _ _ => rfl⟩
  refine ⟨hquery, (isValid_url hr).not_mem_text hquery, path_url_of_ne hr, path_url_of_empty hr,
    ?_, ?_, ?_, hsame, ?_⟩
  · intro a
    rw [hauthority]
    exact authority?_eq_some_iff
  · intro a ha
    rw [url_of_some hr (hauthority ▸ ha)]
    rfl
  · intro hnone
    exact url_of_none hr (hauthority ▸ hnone)
  · intro front query query' r' hfront hq hq' h h' hhost
    exact hsame r' (sameSite_of_front hfront hq hq' h h' hhost)

/-- A second `host` header and the query make no difference, and a target of no parts gets the path
that it lacks. -/
theorem url_names_target_of_host :
    let path := "/api/targets/abc"
    let target : Uri := ⟨none, none, path, some "limit=10"⟩
    let r : Request := ⟨"GET", target,
      [("accept", "*/*"), ("host", "rollout.local:8080"), ("host", "other")], .empty, none⟩
    let r' : Request := ⟨"POST", ⟨none, none, path, none⟩,
      [("host", "rollout.local:8080")], .empty, none⟩
    let bare : Request := { r with outerUri := some ⟨none, none, "", none⟩ }
    (r.outerUri.getD r.uri).IsValid ∧ (bare.outerUri.getD bare.uri).IsValid ∧
      r.url = ⟨some "http", some "rollout.local:8080", path, none⟩ ∧ r'.url = r.url ∧
      bare.url.path = "/" := by
  intro path target r r' bare
  have hread : Uri.ofString? (path ++ "?limit=10") = some target := by decide
  have hread' : Uri.ofString? (path ++ "") = some r'.uri := by decide
  have hr : (r.outerUri.getD r.uri).IsValid := Uri.isValid_of_ofString? hread
  have hbare : (bare.outerUri.getD bare.uri).IsValid := ⟨nofun, nofun, rfl⟩
  obtain ⟨_, _, _, _, _, _, _, _, hsame⟩ := url_names_target hr
  obtain ⟨_, _, _, hempty, _⟩ := url_names_target hbare
  refine ⟨hr, hbare, by decide, ?_, hempty rfl (by decide)⟩
  exact (hsame path "?limit=10" "" r' (by decide) (.inr ⟨_, rfl⟩) (.inl rfl) hread hread'
    fun _ => rfl).1

/-- An authority alone has no path, and in the URL it gets one. -/
theorem url_path_of_authority_alone :
    let r : Request := ⟨"GET", ⟨none, none, "/x", none⟩, [], .empty,
      some ⟨none, some "auth:90", "", none⟩⟩
    Uri.ofString? "/x" = some r.uri ∧ Uri.ofString? "auth:90" = r.outerUri ∧
      r.url.text = "http://auth:90/" ∧ r.url.path ≠ (r.outerUri.getD r.uri).path := by
  decide

end Request
end ErrorBoundary
