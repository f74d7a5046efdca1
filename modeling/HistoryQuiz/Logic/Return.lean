import HistoryQuiz.Client.Me
import HistoryQuiz.Client.SearchParams
import HistoryQuiz.Logic.Base64Url
import HistoryQuiz.Logic.Sessions

/-!
# The way back after a login

A visitor of a protected route is sent to the login page with the URL of the route in the
query. From there it goes through the session of the login to the redirect of the callback.
-/

namespace HistoryQuiz

namespace Client

open Js Throw QuizUsecase

/-! ## The start of a login -/

/-- A text without white space that is not empty is not blank. -/
theorem trim_ne_empty_of_plain {s : String} (hplain : ∀ c ∈ s.toList, isWhiteSpace c = false)
    (hne : s ≠ "") : trim s ≠ "" := by
  rw [trim_eq_self hplain]
  exact hne

/-- A random text of a login is not blank. -/
theorem trim_encodeBase64Url {n : ℕ} (hn : 0 < n) (bytes : Fin n → BitVec 8) :
    trim (encodeBase64Url (List.ofFn bytes)) ≠ "" := by
  apply trim_ne_empty_of_plain
  · intro c hc
    rw [toList_encodeBase64Url] at hc
    obtain ⟨m, hm, rfl⟩ := List.mem_map.mp hc
    exact (urlDigit_spec m (Base64.sextets_lt hm)).2.1
  · intro hempty
    have hlength := length_encodeBase64Url (List.ofFn bytes)
    rw [hempty, List.length_ofFn, show length "" = 0 from rfl] at hlength
    omega

/-- The login that `beginOidcAuthorization` starts: its values are not blank, and it keeps the
target as it is. -/
theorem beginOidcAuthorization_ok {Key : Type} {platform : Platform Key}
    {setSearchParams : String → List (String × String) → Option String} {random : LoginRandom}
    {redirectTo url : String} {request : Request} {pendingAuth : PendingOidcAuth} {s t : Caches}
    (h : beginOidcAuthorization platform setSearchParams random redirectTo request s =
      .ok (url, pendingAuth) t) :
    trim pendingAuth.state ≠ "" ∧ trim pendingAuth.nonce ≠ "" ∧
      trim pendingAuth.codeVerifier ≠ "" ∧ pendingAuth.redirectTo = redirectTo := by
  obtain ⟨hstate, hnonce, hcodeVerifier, hredirectTo⟩ := beginOidcAuthorization_pending h
  rw [hstate, hnonce, hcodeVerifier]
  exact ⟨trim_encodeBase64Url (by decide) _, trim_encodeBase64Url (by decide) _,
    trim_encodeBase64Url (by decide) _, hredirectTo⟩

/-- `beginOidcAuthorization` is what the login page takes. -/
def beginOidc {Key : Type} (platform : Platform Key)
    (setSearchParams : String → List (String × String) → Option String) (random : LoginRandom) :
    BeginOidcAuthorization Caches where
  run := beginOidcAuthorization platform setSearchParams random
  returns h := beginOidcAuthorization_ok h

/-! ## URLs of requests -/

/-- The URL of a request as it is serialized: ASCII without spaces, a path, and a query with its
question mark, if there is one. -/
structure Request.Serialized (request : Request) : Prop where
  ascii : ∀ c ∈ (request.pathname ++ request.search).toList, 0x21 ≤ c.toNat ∧ c.toNat ≤ 0x7e
  pathname : startsWith request.pathname "/" = true
  search : request.search = "" ∨ startsWith request.search "?" = true

/-- A request that follows a redirect to `location` on the site: its URL is split at the first
question mark, and its query is read. -/
structure Request.Follows (utf8 : Utf8Decoder) (location : String) (request : Request) :
    Prop where
  url : request.pathname ++ request.search = location
  pathname : '?' ∉ request.pathname.toList
  search : request.search = "" ∨ startsWith request.search "?" = true
  searchParams : request.searchParams =
    parseSearchParams utf8 (String.ofList request.search.toList.tail)

/-! ## Protected routes -/

/-- A page that is for users only, with what happens outside while it is served. -/
inductive ProtectedRoute where
  | me {σ : Type} (outside : Outside σ) (s : σ) (order : Me.AnswerOrder) (random : RandomValues)
  | questionsNew (random : RandomValues)
  | questionsEdit {σ : Type} (outside : Outside σ) (s : σ) (random : RandomValues)
      (id : Option String)

/-- The answer of a protected route. -/
def ProtectedRoute.answer (request : Request) : ProtectedRoute → Answer
  | me outside s order random =>
      answerOf (attempt (Me.loader outside order random request) s).1
  | questionsNew random => answerOf (QuestionsNew.loader random request)
  | questionsEdit outside s random id =>
      answerOf (attempt (QuestionsEdit.loader outside random id request) s).1

/-- A visitor that is not logged in is sent to the login page. -/
theorem ProtectedRoute.answer_location (route : ProtectedRoute) {request : Request}
    (h : getUser request = none) : (route.answer request).location =
      some (buildLoginUrl (sanitizeRedirectTo (some (request.pathname ++ request.search)) "/")) := by
  have hrequired := requireAuthenticatedUser_eq_error.mpr ⟨h, rfl⟩
  cases route with
  | me outside s order random =>
      show (answerOf (attempt (Me.loader outside order random request) s).1).location = _
      unfold Me.loader
      rw [hrequired]
      rfl
  | questionsNew random =>
      show (answerOf (QuestionsNew.loader random request)).location = _
      unfold QuestionsNew.loader
      rw [hrequired]
      rfl
  | questionsEdit outside s random id =>
      show (answerOf (attempt (QuestionsEdit.loader outside random id request) s).1).location = _
      unfold QuestionsEdit.loader
      rw [hrequired]
      rfl

/-! ## The target on its way -/

theorem isWhiteSpace_ascii : ∀ n, 0x21 ≤ n → n ≤ 0x7e → isWhiteSpace (Char.ofNat n) = false := by
  have hall : ∀ n < 0x7f, 0x21 ≤ n → isWhiteSpace (Char.ofNat n) = false := by decide +kernel
  intro n hmin hmax
  exact hall n (Nat.lt_succ_of_le hmax) hmin

variable {request : Request}

theorem Request.Serialized.trim_url (h : request.Serialized) :
    trim (request.pathname ++ request.search) = request.pathname ++ request.search := by
  apply trim_eq_self
  intro c hc
  obtain ⟨hmin, hmax⟩ := h.ascii c hc
  rw [← Char.ofNat_toNat c]
  exact isWhiteSpace_ascii c.toNat hmin hmax

/-- A path that does not start with two slashes is let through, whatever its query. -/
theorem Request.Serialized.sanitize (h : request.Serialized)
    (hpath : startsWith request.pathname "//" = false) (fallback : String) :
    sanitizeRedirectTo (some (request.pathname ++ request.search)) fallback =
      request.pathname ++ request.search := by
  obtain ⟨rest, hrest⟩ := List.isPrefixOf_iff_prefix.mp h.pathname
  have hpathname : request.pathname.toList = '/' :: rest := hrest.symm
  have hurl : (request.pathname ++ request.search).toList =
      '/' :: (rest ++ request.search.toList) := by
    rw [String.toList_append, hpathname]
    rfl
  have hslash : startsWith (request.pathname ++ request.search) "/" = true := by
    unfold startsWith
    rw [hurl]
    rfl
  have hslashes : startsWith (request.pathname ++ request.search) "//" = false := by
    unfold startsWith at hpath ⊢
    rw [hpathname] at hpath
    rw [hurl]
    cases rest with
    | cons c rest => exact hpath
    | nil =>
        rcases h.search with hempty | hquery
        · rw [hempty]
          rfl
        · obtain ⟨query, hquery⟩ := List.isPrefixOf_iff_prefix.mp hquery
          rw [← hquery]
          rfl
  have hne : request.pathname ++ request.search ≠ "" := by
    intro hempty
    rw [hempty] at hurl
    cases hurl
  unfold sanitizeRedirectTo
  simp [hne, hslash, hslashes]

/-- What follows the question mark of a URL is the query of a request that follows it. -/
theorem Request.Follows.query {utf8 : Utf8Decoder} {path query : String}
    (h : request.Follows utf8 (path ++ "?" ++ query)) (hpath : '?' ∉ path.toList) :
    request.search.toList.tail = query.toList := by
  have hurl := congrArg (fun s => s.toList.dropWhile (· ≠ '?')) h.url
  have hbefore : ∀ l : List Char, '?' ∉ l → ∀ c ∈ l, decide (c ≠ '?') = true := by
    rintro l hl c hc
    rw [decide_eq_true_eq]
    rintro rfl
    exact hl hc
  simp only [String.toList_append, List.append_assoc] at hurl
  rw [List.dropWhile_append_of_pos (hbefore _ h.pathname),
    List.dropWhile_append_of_pos (hbefore _ hpath)] at hurl
  have hsearch : request.search.toList.dropWhile (· ≠ '?') = request.search.toList := by
    rcases h.search with hempty | hquery
    · rw [hempty]
      rfl
    · obtain ⟨rest, hrest⟩ := List.isPrefixOf_iff_prefix.mp hquery
      rw [← hrest]
      rfl
  rw [hsearch] at hurl
  rw [hurl]
  rfl

/-- A login URL that is followed has its target as `redirectTo`. -/
theorem Request.Follows.redirectTo {utf8 : Utf8Decoder} {target : String}
    (h : request.Follows utf8 (buildLoginUrl target)) :
    request.searchParam "redirectTo" = some (sanitizeRedirectTo (some target) "/") := by
  have hlogin : buildLoginUrl target = LOGIN_PATH ++ "?" ++ ("redirectTo=" ++ String.ofList
      ((utf8Bytes (sanitizeRedirectTo (some target) "/")).flatMap formUrlEncodeByte)) := by
    have hsplit : "?redirectTo=" = "?" ++ "redirectTo=" := by decide
    unfold buildLoginUrl
    rw [hsplit]
    simp only [String.append_assoc]
  rw [hlogin] at h
  have hquery := h.query (by decide)
  unfold Request.searchParam
  rw [h.searchParams, hquery, String.ofList_toList, parseSearchParams_redirectTo]
  rfl

/-- The login page starts the login with the target of a login URL that it was reached by. -/
theorem Request.Follows.resolve {utf8 : Utf8Decoder} {login : Request}
    (hpage : request.Serialized) (hpath : startsWith request.pathname "//" = false)
    (h : login.Follows utf8 (buildLoginUrl (sanitizeRedirectTo
      (some (request.pathname ++ request.search)) "/"))) (fallback : String) :
    resolvePostLoginRedirect login fallback = request.pathname ++ request.search := by
  unfold resolvePostLoginRedirect
  rw [h.redirectTo, hpage.sanitize hpath, hpage.sanitize hpath, hpage.sanitize hpath]

end Client

end HistoryQuiz
