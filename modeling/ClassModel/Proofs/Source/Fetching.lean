import ClassModel.Proofs.Json.Limits
import ClassModel.Source.Document

/-!
# What fetching a document may come to

A document that is fetched is an object of components, or there is a fault that is reported: of the
URL, of the request, of the JSON, or of its shape (`Documented`). Three faults slip through, since
the steps that raise them stand outside of what is guarded or raise more than one kind of fault: a
URL whose authority is none, a whole number with too many digits, and brackets that go too deep. A
request is sent to every URL with an authority, and that may name no host.

So the promise is kept exactly for URLs that can be split, if there is a host wherever one is asked
and the reader takes what is answered (`fetched_promised_iff`).
-/

set_option autoImplicit false

namespace ClassModel
namespace Source

variable {α β : Type} {levels : Option Nat} {response : Response} {url text source : String}
  {timeout : Json} {u : Url}

/-! ## Steps with a trace -/

theorem result_bind_eq_ok_iff {t : Traced α} {next : α → Traced β} {b : β} :
    (t >>= next).result = .ok b ↔ ∃ a, t.result = .ok a ∧ (next a).result = .ok b := by
  show (Traced.bind t next).result = _ ↔ _
  unfold Traced.bind
  cases t.result <;> simp

theorem result_bind_of_ok {t : Traced α} {next : α → Traced β} {a : α} (h : t.result = .ok a) :
    (t >>= next).result = (next a).result := by
  show (Traced.bind t next).result = _
  unfold Traced.bind
  rw [h]

theorem result_bind_of_error {t : Traced α} {next : α → Traced β} {f : Fault}
    (h : t.result = .error f) : (t >>= next).result = .error f := by
  show (Traced.bind t next).result = _
  unfold Traced.bind
  rw [h]

@[simp] theorem result_pure (a : α) : (pure a : Traced α).result = .ok a := rfl

@[simp] theorem result_fail (f : Fault) : (Traced.fail f : Traced α).result = .error f := rfl

@[simp] theorem result_logged_bind (level : Log.Level) (message : String) (t : Traced α) :
    (Traced.logged level message >>= fun _ => t).result = t.result := rfl

@[simp] theorem requests_pure (a : α) : (pure a : Traced α).requests = [] := rfl

@[simp] theorem requests_fail (f : Fault) : (Traced.fail f : Traced α).requests = [] := rfl

@[simp] theorem requests_logged_bind (level : Log.Level) (message : String) (t : Traced α) :
    (Traced.logged level message >>= fun _ => t).requests = t.requests := rfl

@[simp] theorem result_requested_bind (r : Request) (t : Traced α) :
    (Traced.requested r >>= fun _ => t).result = t.result := rfl

@[simp] theorem requests_requested_bind (r : Request) (t : Traced α) :
    (Traced.requested r >>= fun _ => t).requests = r :: t.requests := rfl

/-! ## What is promised -/

/-- The host of an authority: after the last at sign, up to a colon, or between brackets. -/
def Url.host (u : Url) : String :=
  match hostPart u.authority.toList with
  | '[' :: rest => .ofList (rest.takeWhile (· ≠ ']'))
  | place => .ofList (place.takeWhile (· ≠ ':'))

/-- What a URL is answered with, taken as a document with so many levels at most. -/
def fetched (levels : Option Nat) (response : Response) (url : String) (timeout : Json) :
    Traced Json := do
  let (source, text) ← fetch response url timeout
  parse levels text source

/-- What may come of fetching and reading a document: an object with an object of components, an
error of loading, for the URL, the request or the JSON, or an error of definition, for the shape. -/
inductive Documented (source : String) : Except Fault Json → Prop
  | document {document : Json} {components : Entries Json} :
      document.field? "components" = some (.obj components) → Documented source (.ok document)
  | wrongUrl : Documented source (.error (.wrongUrl source))
  | timedOut : Documented source (.error (.timedOut source))
  | refused (status : String) : Documented source (.error (.refused status source))
  | unreachable (reason : String) : Documented source (.error (.unreachable source reason))
  | malformed (problem : Json.Problem) (line column : Nat) :
      Documented source (.error (.malformed source problem line column))
  | notObject (kind : String) : Documented source (.error (.notObject source kind))
  | noComponents : Documented source (.error (.noComponents source))

/-- The reader takes the text for JSON or for none; no limit keeps it from reading on. -/
def Readable (levels : Option Nat) (text : String) : Prop :=
  Json.parse levels text ≠ .error .integerTooLong ∧ Json.parse levels text ≠ .error .tooDeep

/-- A text without a long run of digits, and with no more brackets than there may be levels, is
readable. -/
theorem readable_of_limits (hrun : ¬ Json.HasLongRun text.toList)
    (hdeep : ∀ bound ∈ levels, text.toList.countP Json.isOpening ≤ bound) :
    Readable levels text := by
  constructor
  · intro h
    exact hrun (Json.explained_of_parse h)
  · intro h
    obtain ⟨bound, hbound, hlt⟩ := Json.exists_bound_of_tooDeep h
    exact Nat.not_lt_of_le (hdeep bound hbound) hlt

/-! ## Reading -/

theorem requests_parse (levels : Option Nat) (text source : String) :
    (parse levels text source).requests = [] := by
  unfold parse
  split
  · rfl
  · rfl
  · rfl
  · split
    · rfl
    · split
      · split <;> rfl
      · rfl

/-- **Reading a text** comes to what is documented, if no limit stops it. -/
theorem documented_parse_iff :
    Documented source (parse levels text source).result ↔ Readable levels text := by
  unfold Readable parse
  cases hjson : Json.parse levels text with
  | error e =>
    cases e with
    | integerTooLong =>
      constructor
      · intro h
        cases h
      · intro h
        exact absurd rfl h.1
    | tooDeep =>
      constructor
      · intro h
        cases h
      · intro h
        exact absurd rfl h.2
    | malformed problem position =>
      refine ⟨fun _ => ⟨by simp, by simp⟩, fun _ => ?_⟩
      exact .malformed _ _ _
  | ok document =>
    -- A text that is JSON passes both limits; what is left is the shape of the document.
    refine ⟨fun _ => ⟨by simp, by simp⟩, fun _ => ?_⟩
    dsimp only
    split
    · exact .notObject _
    · next es hes =>
      split
      · next components hcomponents =>
        have hfield : document.field? "components" = some (.obj components) := by
          rw [Json.field?, hes]
          exact hcomponents
        split
        · exact .document hfield
        · exact .document hfield
      · exact .noComponents

/-! ## Fetching -/

/-- The request for a URL. -/
def requestFor (url : String) (timeout : Json) : Request :=
  ⟨url, timeout, [("Accept", "application/json")]⟩

/-- Is the URL one that is asked for? -/
def isAsked (url : String) : Bool := (Url.ofText? url).any (·.isFetchable)

/-- If the answer is accepted, its text is one that no limit keeps from being read. -/
def Response.Readable (levels : Option Nat) (response : Response) : Prop :=
  ∀ text, response = .accepted text → Source.Readable levels text

theorem requests_bind {t : Traced α} {next : α → Traced β} (h : ∀ a, (next a).requests = []) :
    (t >>= next).requests = t.requests := by
  show (Traced.bind t next).requests = _
  unfold Traced.bind
  cases t.result with
  | error f => rfl
  | ok a => simp [h a]

theorem requests_fetched (levels : Option Nat) (response : Response) (url : String)
    (timeout : Json) : (fetched levels response url timeout).requests =
      if isAsked url then [requestFor url timeout] else [] := by
  have hfetch : (fetch response url timeout).requests =
      if isAsked url then [requestFor url timeout] else [] := by
    unfold fetch isAsked
    cases Url.ofText? url with
    | none => rfl
    | some u =>
      cases hu : u.isFetchable with
      | false => simp [hu]
      | true =>
        cases response <;> simp [hu, requestFor]
  rw [fetched, requests_bind, hfetch]
  intro p
  exact requests_parse levels p.2 p.1

/-- What comes of fetching a URL that is asked for. -/
theorem result_fetch (response : Response) (timeout : Json) (hurl : Url.ofText? url = some u)
    (hu : u.isFetchable = true) :
    (fetch response url timeout).result = match response with
      | .accepted text => .ok (url, text)
      | .refused status => .error (.refused (status.elim "?" toString) url)
      | .timedOut => .error (.timedOut url)
      | .unreachable reason => .error (.unreachable url reason) := by
  simp only [fetch, hurl, hu]
  cases response <;> rfl

/-- What comes of fetching a document: nothing for a URL that cannot be split, a documented fault
before a text is there, or what comes of reading the text. -/
theorem fetched_cases (levels : Option Nat) (response : Response) (url : String) (timeout : Json) :
    (Url.ofText? url = none ∧ (fetched levels response url timeout).result = .error .brokenUrl) ∨
    ∃ u, Url.ofText? url = some u ∧
      (((u.isFetchable = true → response.Readable levels) ∧
          Documented url (fetched levels response url timeout).result) ∨
        ∃ text, u.isFetchable = true ∧ (response.Readable levels ↔ Readable levels text) ∧
          (fetched levels response url timeout).result = (parse levels text url).result) := by
  cases hurl : Url.ofText? url with
  | none =>
    refine Or.inl ⟨rfl, result_bind_of_error ?_⟩
    simp only [fetch, hurl, result_fail]
  | some u =>
    refine Or.inr ⟨u, rfl, ?_⟩
    cases hu : u.isFetchable with
    | false =>
      have hresult : (fetched levels response url timeout).result = .error (.wrongUrl url) := by
        apply result_bind_of_error
        simp [fetch, hurl, hu]
      rw [hresult]
      exact Or.inl ⟨by simp, .wrongUrl⟩
    | true =>
      have hfetch := result_fetch response timeout hurl hu
      -- Only an answer that is accepted has a text to be read.
      have hfault : ∀ f, (fetch response url timeout).result = .error f →
          Documented url (.error f) → response.Readable levels →
          ((true = true → response.Readable levels) ∧
            Documented url (fetched levels response url timeout).result) := by
        intro f hf hdocumented hreadable
        rw [fetched, result_bind_of_error hf]
        exact ⟨fun _ => hreadable, hdocumented⟩
      cases response with
      | accepted text =>
        refine Or.inr ⟨text, rfl, ?_, result_bind_of_ok hfetch⟩
        constructor
        · exact fun h => h text rfl
        · intro h text' heq
          cases heq
          exact h
      | refused status => exact Or.inl (hfault _ hfetch (.refused _) fun _ heq => nomatch heq)
      | timedOut => exact Or.inl (hfault _ hfetch .timedOut fun _ heq => nomatch heq)
      | unreachable reason =>
        exact Or.inl (hfault _ hfetch (.unreachable reason) fun _ heq => nomatch heq)

/-- **Fetching a document** comes to what is documented exactly for URLs that can be split, if the
reader takes what is answered. -/
theorem documented_fetched_iff (levels : Option Nat) (response : Response) (url : String)
    (timeout : Json) : Documented url (fetched levels response url timeout).result ↔
      ∃ u, Url.ofText? url = some u ∧ (u.isFetchable = true → response.Readable levels) := by
  rcases fetched_cases levels response url timeout with ⟨hurl, hresult⟩ | ⟨u, hurl, h⟩
  · rw [hresult, hurl]
    constructor
    · intro h
      cases h
    · rintro ⟨_, hu, _⟩
      cases hu
  · rw [hurl]
    rcases h with ⟨hreadable, hdocumented⟩ | ⟨text, hu, hiff, hresult⟩
    · exact ⟨fun _ => ⟨u, rfl, hreadable⟩, fun _ => hdocumented⟩
    · rw [hresult, documented_parse_iff, ← hiff]
      constructor
      · intro h
        exact ⟨u, rfl, fun _ => h⟩
      · rintro ⟨u', hu', h⟩
        cases hu'
        exact h hu

/-- Only three faults are not documented. -/
theorem undocumented_fetched
    (h : ¬ Documented url (fetched levels response url timeout).result) :
    (fetched levels response url timeout).result ∈
      [.error .brokenUrl, .error (.misfit .digits), .error (.misfit .depth)] := by
  rcases fetched_cases levels response url timeout with
    ⟨_, hresult⟩ | ⟨_, _, ⟨_, hdoc⟩ | ⟨text, _, _, hresult⟩⟩
  · simp [hresult]
  · exact absurd hdoc h
  · rw [hresult] at h ⊢
    have hlimit := mt documented_parse_iff.mpr h
    rw [Readable, not_and_or, not_not, not_not] at hlimit
    rcases hlimit with hjson | hjson
    · simp [parse, hjson]
    · simp [parse, hjson]

/-! ## Hosts -/

/-- The request goes to an http(s) URL with a host. -/
def IsHosted (r : Request) : Prop :=
  ∃ u, Url.ofText? r.url = some u ∧ (u.scheme = "http" ∨ u.scheme = "https") ∧ u.host ≠ ""

theorem isHosted_requestFor (hurl : Url.ofText? url = some u) (hu : u.isFetchable = true) :
    IsHosted (requestFor url timeout) ↔ u.host ≠ "" := by
  have hscheme : u.scheme = "http" ∨ u.scheme = "https" := by
    rw [Url.isFetchable, Bool.and_eq_true, Bool.or_eq_true, beq_iff_eq, beq_iff_eq] at hu
    exact hu.1
  constructor
  · rintro ⟨u', hu', _, hhost⟩
    rw [requestFor, hurl] at hu'
    cases hu'
    exact hhost
  · intro hhost
    exact ⟨u, hurl, hscheme, hhost⟩

/-- **When fetching a document keeps what it promises.** A request is sent exactly to the URLs that
are asked for. What comes of it is documented, and no request goes to a URL without a host, exactly
if the URL can be split, and, where it is asked for, has a host and is answered with what can be
read. All texts can be that have no run of digits longer than a whole number may be and, if there is
a bound on the levels, no more brackets than that. Otherwise only three faults can come of it. -/
theorem fetched_promised_iff (levels : Option Nat) (response : Response) (url : String)
    (timeout : Json) :
    (fetched levels response url timeout).requests =
        (if isAsked url then [requestFor url timeout] else []) ∧
      (Documented url (fetched levels response url timeout).result ∧
          (∀ r ∈ (fetched levels response url timeout).requests, IsHosted r) ↔
        ∃ u, Url.ofText? url = some u ∧
          (u.isFetchable = true → u.host ≠ "" ∧ response.Readable levels)) ∧
      ((∀ text, response = .accepted text → ¬ Json.HasLongRun text.toList ∧
          ∀ bound ∈ levels, text.toList.countP Json.isOpening ≤ bound) →
        response.Readable levels) ∧
      (Documented url (fetched levels response url timeout).result ∨
        (fetched levels response url timeout).result ∈
          [.error .brokenUrl, .error (.misfit .digits), .error (.misfit .depth)]) := by
  have hrequests := requests_fetched levels response url timeout
  refine ⟨hrequests, ?_, ?_, ?_⟩
  · rw [documented_fetched_iff, hrequests]
    constructor
    · -- The host matters for the request only, the text only for what comes of it.
      rintro ⟨⟨u, hurl, hreadable⟩, hhosted⟩
      refine ⟨u, hurl, ?_⟩
      intro hu
      have hasked : isAsked url = true := by simp [isAsked, hurl, hu]
      rw [if_pos hasked] at hhosted
      have hhost := hhosted _ List.mem_cons_self
      exact ⟨(isHosted_requestFor hurl hu).mp hhost, hreadable hu⟩
    · rintro ⟨u, hurl, h⟩
      refine ⟨⟨u, hurl, fun hu => (h hu).2⟩, ?_⟩
      intro r hr
      split at hr
      · next hasked =>
        have hu : u.isFetchable = true := by simpa [isAsked, hurl] using hasked
        rw [List.mem_singleton.mp hr]
        exact (isHosted_requestFor hurl hu).mpr (h hu).1
      · cases hr
  · intro h text haccepted
    obtain ⟨hrun, hdeep⟩ := h text haccepted
    exact readable_of_limits hrun hdeep
  · exact or_iff_not_imp_left.mpr undocumented_fetched

/-- **A promise is not always kept**: a URL with half a bracket is refused by a fault that is not
documented, a whole number with too many digits too, and a URL of a port only is asked for. -/
theorem not_all_fetched_promised :
    (¬ ∀ levels response url timeout,
      Documented url (fetched levels response url timeout).result) ∧
    (¬ ∀ levels response url timeout u, Url.ofText? url = some u →
      Documented url (fetched levels response url timeout).result) ∧
    ¬ ∀ levels response url timeout,
      ∀ r ∈ (fetched levels response url timeout).requests, IsHosted r := by
  refine ⟨?_, ?_, ?_⟩
  · intro hall
    have hbroken : Url.ofText? "http://[bad" = none := by decide
    obtain ⟨u, hu, _⟩ := (documented_fetched_iff _ _ _ _).mp
      (hall none .timedOut "http://[bad" standardTimeout)
    rw [hbroken] at hu
    cases hu
  · intro hall
    have hurl : Url.ofText? "http://a" = some ⟨"http", "a"⟩ := by decide
    let ones : String := .ofList (List.replicate (Json.mostDigits + 1) '1')
    obtain ⟨u, hu, hreadable⟩ := (documented_fetched_iff _ _ _ _).mp
      (hall none (.accepted ones) "http://a" standardTimeout _ hurl)
    rw [hurl] at hu
    cases hu
    have hones := hreadable (by decide) ones rfl
    exact hones.1 (Json.parse_ones (Nat.lt_succ_self _) none)
  · intro hall
    have hurl : Url.ofText? "http://:80" = some ⟨"http", ":80"⟩ := by decide
    have hrequests := requests_fetched none .timedOut "http://:80" standardTimeout
    have hasked : isAsked "http://:80" = true := by decide
    rw [if_pos hasked] at hrequests
    have hhosted := hall none .timedOut "http://:80" standardTimeout _
      (hrequests ▸ List.mem_cons_self)
    exact (isHosted_requestFor hurl (by decide)).mp hhosted (by decide)

end Source
end ClassModel
