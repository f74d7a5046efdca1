import HistoryQuiz.Base.Url
import HistoryQuiz.Logic.Sessions

/-!
# Where a redirect leads

* `redirects_stay_iff`: what `sanitizeRedirectTo` returns stays on the site, and with it the
  redirects of the login page and of the callback, unless a slash or backslash follows the
  first slash after nothing but tabs and newlines.
* `sanitizeRedirectTo_leaves`: a backslash after the first slash leads away.
-/

namespace HistoryQuiz

namespace Client

open Js

/-- On every page of http or https a browser takes `location` for a URL of the same origin. -/
def StaysOn (hosts : List Char → Option String) (location : String) : Prop :=
  ∀ page : Url.Page, Url.resolve hosts page location = some page.origin

/-- A text that `sanitizeRedirectTo` lets through, although a slash or backslash follows its
first slash once tabs and newlines are left out. -/
def escapes (redirectTo : String) : Bool :=
  startsWith redirectTo "/" && !startsWith redirectTo "//" &&
    ((redirectTo.toList.tail.find? fun c => !Url.isTabOrNewline c).map Url.isSlash).getD false

/-- A path of the site. -/
structure InternalPath (path : String) : Prop where
  slash : startsWith path "/" = true
  stays : escapes path = false
  single : startsWith path "//" = false

theorem toList_of_startsWith {s : String} (h : startsWith s "/" = true) :
    s.toList = '/' :: s.toList.tail := by
  unfold startsWith at h
  rw [List.isPrefixOf_iff_prefix] at h
  obtain ⟨rest, hrest⟩ := h
  rw [← hrest]
  rfl

/-- A text that `sanitizeRedirectTo` lets through stays unless it escapes. -/
theorem staysOn_iff {hosts : List Char → Option String} {path : String}
    (hslash : startsWith path "/" = true) (hslashes : startsWith path "//" = false) :
    StaysOn hosts path ↔ escapes path = false := by
  have hpath := toList_of_startsWith hslash
  unfold StaysOn escapes
  rw [Url.forall_page_iff hpath, Url.startsAuthority_normalize hpath, hslash, hslashes]
  rfl

theorem InternalPath.staysOn {hosts : List Char → Option String} {path : String}
    (h : InternalPath path) : StaysOn hosts path := (staysOn_iff h.slash h.single).mpr h.stays

/-- What `sanitizeRedirectTo` returns: a text that it lets through, or the fallback. -/
theorem sanitizeRedirectTo_eq (redirectTo : Option String) (fallback : String) :
    (startsWith (redirectTo.getD "") "/" = true ∧ startsWith (redirectTo.getD "") "//" = false ∧
      sanitizeRedirectTo redirectTo fallback = redirectTo.getD "") ∨
    (escapes (redirectTo.getD "") = false ∧ sanitizeRedirectTo redirectTo fallback = fallback) := by
  cases redirectTo with
  | none => exact .inr ⟨rfl, rfl⟩
  | some redirectTo =>
      unfold sanitizeRedirectTo
      rw [Option.getD_some]
      by_cases hempty : redirectTo = ""
      · right
        rw [hempty]
        exact ⟨rfl, rfl⟩
      · cases hslash : startsWith redirectTo "/" <;>
          cases hslashes : startsWith redirectTo "//" <;> simp [escapes, hempty, hslash, hslashes]

theorem sanitizeRedirectTo_staysOn {hosts : List Char → Option String} {redirectTo : Option String}
    {fallback : String}
    (hfallback : sanitizeRedirectTo redirectTo fallback = fallback → InternalPath fallback) :
    StaysOn hosts (sanitizeRedirectTo redirectTo fallback) ↔
      escapes (redirectTo.getD "") = false := by
  rcases sanitizeRedirectTo_eq redirectTo fallback with ⟨hslash, hslashes, hsame⟩ | ⟨hno, hsame⟩
  · rw [hsame]
    exact staysOn_iff hslash hslashes
  · rw [hsame]
    exact iff_of_true (hfallback hsame).staysOn hno

theorem internalPath_me : InternalPath "/me" := ⟨by decide, by decide, by decide⟩

/-- For every text and every fallback that is a path of the site, for the redirect of the
login page for a user that is logged in, and for the redirect of the callback: a browser
stays on the origin of every page exactly when the text does not escape. -/
theorem redirects_stay_iff (hosts : List Char → Option String) :
    (∀ redirectTo fallback, InternalPath fallback →
      (StaysOn hosts (sanitizeRedirectTo redirectTo fallback) ↔
        escapes (redirectTo.getD "") = false)) ∧
    (∀ {σ : Type} bytes beginOidcAuthorization request (s : σ) user location,
      getUser request = some user →
      (Login.loader bytes beginOidcAuthorization request s).1.location = some location →
      (StaysOn hosts location ↔
        escapes ((request.searchParam "redirectTo").getD "") = false)) ∧
    (∀ {σ : Type} completeOidcAuthorization request (s : σ) location,
      (AuthCallback.loader completeOidcAuthorization request s).1.location = some location →
      ∃ pendingAuth, getPendingOidcAuth request = some pendingAuth ∧
        (StaysOn hosts location ↔ escapes pendingAuth.redirectTo = false)) := by
  refine ⟨?_, ?_, ?_⟩
  · intro redirectTo fallback hfallback
    exact sanitizeRedirectTo_staysOn fun _ => hfallback
  · intro σ bytes beginOidc request s user location huser hlocation
    unfold Login.loader at hlocation
    rw [huser] at hlocation
    by_cases hempty : sanitizeRedirectTo (request.searchParam "redirectTo") "" ≠ ""
    · dsimp only at hlocation
      rw [if_pos hempty] at hlocation
      cases hlocation
      exact sanitizeRedirectTo_staysOn fun h => absurd h hempty
    · -- without a target the page says that the user is logged in
      dsimp only at hlocation
      rw [if_neg hempty] at hlocation
      cases hlocation
  · intro σ completeOidc request s location hlocation
    rcases AuthCallback.loader_cases completeOidc request s with
      ⟨subject, url, hsucceeds, -⟩ | ⟨message, url, status, hresponse⟩
    · obtain ⟨pendingAuth, hpending, hresponse⟩ := AuthCallback.loader_succeeds hsucceeds
      rw [hresponse] at hlocation
      cases hlocation
      exact ⟨pendingAuth, hpending, sanitizeRedirectTo_staysOn fun _ => internalPath_me⟩
    · -- a callback that fails does not redirect
      rw [hresponse] at hlocation
      cases hlocation

/-- The path of a question with its query stays. -/
theorem redirects_stay_path : StaysOn (fun name => some (String.ofList name))
    (sanitizeRedirectTo (some "/questions/1/edit?page=2") "/me") :=
  ((redirects_stay_iff _).1 (some "/questions/1/edit?page=2") "/me" internalPath_me).mpr (by decide)

/-! ### A redirect that leads away -/

/-- Reads host names of lower case letters and dots. -/
def plainHosts (name : List Char) : Option String :=
  if name.all fun c => c.isLower || c = '.' then some (String.ofList name) else none

/-- The site. -/
def quizPage : Url.Page where
  origin := ⟨"https", "quiz.example", none⟩
  http := .inr rfl
  port := by rintro p ⟨⟩

/-- A backslash after the first slash, or a tab between two, leads from the site to another. -/
theorem sanitizeRedirectTo_leaves : InternalPath "/" ∧
    (∀ s ∈ ["/\\evil.example", "/\t/evil.example"],
      Url.resolve plainHosts quizPage (sanitizeRedirectTo (some s) "/") =
        some ⟨"https", "evil.example", none⟩) ∧
    ¬StaysOn plainHosts (sanitizeRedirectTo (some "/\\evil.example") "/") := by
  have hleaves : ∀ s ∈ ["/\\evil.example", "/\t/evil.example"],
      Url.resolve plainHosts quizPage (sanitizeRedirectTo (some s) "/") =
        some ⟨"https", "evil.example", none⟩ := by decide +kernel
  refine ⟨⟨by decide, by decide, by decide⟩, hleaves, ?_⟩
  intro hstays
  have hsame := (hleaves _ (by simp)).symm.trans (hstays quizPage)
  exact absurd hsame (by decide)

end Client

end HistoryQuiz
