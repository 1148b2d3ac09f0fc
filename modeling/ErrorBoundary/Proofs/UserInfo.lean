import Mathlib.Data.List.DropRight
import ErrorBoundary.Proofs.Url

/-!
# ErrorBoundary.Proofs.UserInfo

What becomes of the user that an authority names in front of its host. The URL takes the authority
whole, so that requests which differ in the user alone have URLs and events that differ with it
(`Request.url_keeps_userInfo`): a password in a target or in a `host` header shows in the log
(`Request.url_shows_password`).

* `Uri.userInfo`, `Uri.site` — an authority up to its last `@`, and what follows.
* `Request.SameButUser`      — two requests for the same place, in the name of whatever users.
-/

namespace ErrorBoundary
namespace Uri

/-- The user of an authority, with the `@` behind it; empty where no user is named. -/
def userInfo (a : String) : String := String.ofList (a.toList.rdropWhile (· ≠ '@'))

/-- The host of an authority, with its port. -/
def site (a : String) : String := String.ofList (a.toList.rtakeWhile (· ≠ '@'))

theorem userInfo_append_site (a : String) : userInfo a ++ site a = a := by
  rw [userInfo, site, ← String.ofList_append, List.rdropWhile_append_rtakeWhile,
    String.ofList_toList]

theorem not_mem_site (a : String) : '@' ∉ (site a).toList := by
  rw [site, String.toList_ofList]
  intro h
  simpa using List.mem_rtakeWhile_imp h

/-- On the same host, authorities differ in their users. -/
theorem eq_iff_userInfo {a a' : String} (h : site a = site a') :
    a = a' ↔ userInfo a = userInfo a' := by
  constructor
  · rintro rfl
    rfl
  · intro huser
    rw [← userInfo_append_site a, ← userInfo_append_site a', huser, h]

theorem text_absolute (scheme authority path : String) :
    text ⟨some scheme, some authority, path, none⟩ = scheme ++ "://" ++ authority ++ path := by
  simp [text]

end Uri

namespace Request

def userInfo? (r : Request) : Option String := r.authority?.map Uri.userInfo

/-- Two requests for one path on one host, wherever the host is named: in the whole target, in the
target at hand or in the `host` header. -/
structure SameButUser (r r' : Request) : Prop where
  scheme : r.target.scheme = r'.target.scheme
  path : r.target.path = r'.target.path
  site : r.authority?.map Uri.site = r'.authority?.map Uri.site

/-- Both name a host, and the same one, or neither does. -/
theorem SameButUser.authorities {r r' : Request} (h : r.SameButUser r') :
    (r.authority? = none ∧ r'.authority? = none) ∨
      ∃ a a', r.authority? = some a ∧ r'.authority? = some a' ∧ Uri.site a = Uri.site a' := by
  have hsite := h.site
  cases ha : r.authority? with
  | none =>
    rw [ha, Option.map_none, eq_comm, Option.map_eq_none_iff] at hsite
    exact .inl ⟨rfl, hsite⟩
  | some a =>
    rw [ha, Option.map_some, eq_comm, Option.map_eq_some_iff] at hsite
    obtain ⟨a', ha', heq⟩ := hsite
    exact .inr ⟨a, a', rfl, ha', heq.symm⟩

/-- On the same host it takes the same user to make the same authority. -/
theorem SameButUser.authority?_eq_iff {r r' : Request} (h : r.SameButUser r') :
    r.authority? = r'.authority? ↔ r.userInfo? = r'.userInfo? := by
  unfold userInfo?
  obtain ⟨ha, ha'⟩ | ⟨a, a', ha, ha', hsite⟩ := h.authorities
  · rw [ha, ha']
    exact iff_of_true rfl rfl
  · rw [ha, ha', Option.map_some, Option.map_some, Option.some.injEq, Option.some.injEq]
    exact Uri.eq_iff_userInfo hsite

theorem text_url_of_some {r : Request} (hr : r.target.IsValid) {a : String}
    (h : r.authority? = some a) :
    r.url.text = r.target.scheme.getD "http" ++ "://" ++ a ++ Uri.orRoot r.target.path := by
  rw [url_of_some hr h, Uri.text_absolute]

section TwoRequests

variable {r r' : Request}

/-- The authority can be told from the text of the URL. -/
theorem authority?_of_text_url (hr : r.target.IsValid) (hr' : r'.target.IsValid)
    (h : r.SameButUser r') (htext : r.url.text = r'.url.text) : r.authority? = r'.authority? := by
  obtain ⟨ha, ha'⟩ | ⟨a, a', ha, ha', _⟩ := h.authorities
  · rw [ha, ha']
  · rw [text_url_of_some hr ha, text_url_of_some hr' ha', h.scheme, h.path] at htext
    have heq : a = a' := by simpa [← String.toList_inj] using htext
    rw [ha, ha', heq]

theorem SameButUser.url_eq (h : r.SameButUser r') (ha : r.authority? = r'.authority?) :
    r.url = r'.url := by
  unfold url pathUrl
  rw [ha, h.scheme, h.path]

theorem text_url_eq_iff (hr : r.target.IsValid) (hr' : r'.target.IsValid) (h : r.SameButUser r') :
    r.url.text = r'.url.text ↔ r.userInfo? = r'.userInfo? := by
  rw [← h.authority?_eq_iff]
  exact ⟨authority?_of_text_url hr hr' h, fun ha => congrArg Uri.text (h.url_eq ha)⟩

theorem url_eq_iff (hr : r.target.IsValid) (hr' : r'.target.IsValid) (h : r.SameButUser r') :
    r.url = r'.url ↔ r.userInfo? = r'.userInfo? := by
  rw [← h.authority?_eq_iff]
  exact ⟨fun hurl => authority?_of_text_url hr hr' h (congrArg Uri.text hurl), h.url_eq⟩

/-- The user goes with the host into the URL and into the log. Of two requests for one path on one
host the URLs agree, and the events of any error do, just when they name the same user or none; and
what stands for the authority in the text of the URL is the user and the host. -/
theorem url_keeps_userInfo (hr : r.target.IsValid) (hr' : r'.target.IsValid)
    (h : r.SameButUser r') :
    (r.url = r'.url ↔ r.userInfo? = r'.userInfo?) ∧
    (∀ (t : Responder) (e : ApiError),
      (t.dispatch r.url e).events = (t.dispatch r'.url e).events ↔
        r.userInfo? = r'.userInfo?) ∧
    ∀ a, r.authority? = some a →
      '@' ∉ (Uri.site a).toList ∧
      r.url.text = r.target.scheme.getD "http" ++ "://" ++ (Uri.userInfo a ++ Uri.site a) ++
        Uri.orRoot r.target.path := by
  refine ⟨url_eq_iff hr hr' h, ?_, ?_⟩
  · intro t e
    rw [Responder.events_dispatch, Responder.events_dispatch, ← text_url_eq_iff hr hr' h]
    simp
  · intro a ha
    refine ⟨Uri.not_mem_site a, ?_⟩
    rw [text_url_of_some hr ha, Uri.userInfo_append_site]

end TwoRequests

/-- Two requests that the `host` header alone tells apart, by a user that only one of them names. -/
theorem url_keeps_userInfo_of_host :
    let r : Request :=
      ⟨"GET", ⟨none, none, "/x", none⟩, [("host", "user:secret@h:80")], .empty, none⟩
    let r' : Request := ⟨"GET", ⟨none, none, "/x", none⟩, [("host", "h:80")], .empty, none⟩
    r.target.IsValid ∧ r'.target.IsValid ∧ r.SameButUser r' ∧ r.url ≠ r'.url ∧
      r.url.text = "http" ++ "://" ++ ("user:secret@" ++ "h:80") ++ "/x" := by
  intro r r'
  have hread : Uri.ofString? "/x" = some r.target := by decide
  have hvalid : r.target.IsValid := Uri.isValid_of_ofString? hread
  have hvalid' : r'.target.IsValid := hvalid
  have hsame : r.SameButUser r' := ⟨rfl, rfl, by decide⟩
  obtain ⟨hurl, _, htext⟩ := url_keeps_userInfo hvalid hvalid' hsame
  refine ⟨hvalid, hvalid', hsame, ?_, (htext "user:secret@h:80" (by decide)).2⟩
  intro heq
  exact absurd (hurl.mp heq) (by decide)

/-- A user in the target at hand, in the whole target and in the `host` header. Each time the user
and the password are in the event, and without them it is another one. -/
theorem url_shows_password :
    let raising : Handler := .pure (.ofError (.server (.entityNotExists "gone")))
    let events (r : Request) := (exceptionBoundary ⟨.standard⟩ raising r).events
    let requests (authority : String) : List Request :=
      let target : Uri := ⟨some "http", some authority, "/x", none⟩
      let path : Uri := ⟨none, none, "/x", none⟩
      [⟨"GET", target, [], .empty, none⟩, ⟨"GET", path, [], .empty, some target⟩,
        ⟨"GET", path, [("host", authority)], .empty, none⟩]
    Uri.ofString? "http://user:secret@h:80/x" =
      some ⟨some "http", some "user:secret@h:80", "/x", none⟩ ∧
    (∀ r ∈ requests "user:secret@h:80",
      events r = [.exceptionHandled TypeName.serverError "http://user:secret@h:80/x"]) ∧
    ∀ r ∈ requests "h:80",
      events r = [.exceptionHandled TypeName.serverError "http://h:80/x"] := by
  decide

end Request
end ErrorBoundary
