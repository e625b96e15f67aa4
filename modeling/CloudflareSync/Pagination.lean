import CloudflareSync.Client
import CloudflareSync.Spec
import Mathlib.Data.Nat.Find

/-!
# What `paginated_get` returns and what it raises

`paginated_get` sends `request("GET", path, params=page_params)` for page 1, 2, ... and reads
three things off each decoded page: `result or []`, which it iterates into the list it
returns, `result_info or {}` and its `total_pages`, which decide whether the loop stops.
`request` classifies four failures as `CloudflareError`; every other failure is a read of a
decoded body that has the wrong shape, and it raises whatever Python raises there.

`pageFault` names that second kind: the `AttributeError` of a body that is no dict (in
`request` or in the loop), the `TypeError` of a `result` that cannot be iterated or a
`total_pages` that `int()` refuses, and the `ValueError` of a `total_pages` string that is no
integer literal. `paginatedGet_outcome` proves that, over every sequence of replies, the loop
returns items of the batches of the pages it read, or raises a `CloudflareError` or the
`pageFault` of one of those pages; none of the faults is a `CloudflareError`, so
`list_load_balancers` lets them through.

`paginatedGet_pages` is the loop against well-formed pages: it requests pages `1, ..., n` for
the least `n` whose reported `total_pages` is at most `n`, and returns their `result` lists
in order, given enough fuel for `n` pages.
-/

set_option autoImplicit false

namespace CloudflareSync

namespace CloudflareClient

/-! ## The reads that can fail on a decoded page -/

/-- The exception the reads of a decoded page raise, when one does: the test of `request` that
refuses a reply, the message of a refused reply, and the reads of the loop. -/
def pageFault (status : Nat) (text : String) (body : JVal) (page : Nat) : Option Exc :=
  match refused status body with
  | .error e => some e
  | .ok true =>
    match refusal body text with
    | .error e => some e
    | .ok _ => none
  | .ok false =>
    match readPage body page with
    | .error e => some e
    | .ok _ => none

theorem iter_error_not_cloudflare {v : JVal} {e : Exc} (failed : v.iter = .error e) :
    e.isCloudflare = false := by
  cases v <;> simp only [JVal.iter, reduceCtorEq, Except.error.injEq] at failed <;> subst failed <;>
    rfl

theorem toInt_error_not_cloudflare {v : JVal} {e : Exc} (failed : v.toInt = .error e) :
    e.isCloudflare = false := by
  unfold JVal.toInt at failed
  repeat' split at failed
  all_goals cases failed <;> rfl

theorem refused_error_not_cloudflare {status : Nat} {body : JVal} {e : Exc}
    (failed : refused status body = .error e) : e.isCloudflare = false := by
  unfold refused at failed
  simp only [bind, Except.bind] at failed
  repeat' split at failed
  all_goals cases failed
  exact JVal.getD_error_not_cloudflare ‹_›

theorem refusal_error_not_cloudflare {body : JVal} {text : String} {e : Exc}
    (failed : refusal body text = .error e) : e.isCloudflare = false := by
  simp only [refusal, bind, Except.bind, pure, Except.pure] at failed
  repeat' split at failed
  all_goals cases failed
  all_goals exact JVal.getD_error_not_cloudflare ‹_›

theorem readPage_error_not_cloudflare {body : JVal} {page : Nat} {e : Exc}
    (failed : readPage body page = .error e) : e.isCloudflare = false := by
  simp only [readPage, bind, Except.bind, pure, Except.pure] at failed
  repeat' split at failed
  all_goals cases failed
  all_goals first
    | exact JVal.getD_error_not_cloudflare ‹_›
    | exact iter_error_not_cloudflare ‹_›
    | exact toInt_error_not_cloudflare ‹_›

/-- **No page fault is a `CloudflareError`.** -/
theorem pageFault_not_cloudflare {status : Nat} {text : String} {body : JVal} {page : Nat}
    {e : Exc} (fault : pageFault status text body page = some e) : e.isCloudflare = false := by
  unfold pageFault at fault
  repeat' split at fault
  all_goals cases fault
  all_goals first
    | exact refused_error_not_cloudflare ‹_›
    | exact refusal_error_not_cloudflare ‹_›
    | exact readPage_error_not_cloudflare ‹_›

/-! ## Every sequence of replies -/

section Replies

variable (c : CloudflareClient) (path : String) (params : List (String × String)) (perPage : Nat)
  (env : Env) {σ ε : Type}

/-- The provider answered the request for page `page` of the listing with the decoded body
`body`, at a tick in `[lo, hi)`. -/
def Answered (lo hi page status : Nat) (text : String) (body : JVal) : Prop :=
  ∃ tick, lo ≤ tick ∧ tick < hi ∧
    env.reply tick (c.httpRequest "GET" path (pageParams page perPage params)) =
      .response status text (some body)

variable {c path params perPage env}

theorem Answered.mono {lo hi lo' hi' page status : Nat} {text : String} {body : JVal}
    (answered : Answered c path params perPage env lo hi page status text body)
    (low : lo' ≤ lo) (high : hi ≤ hi') :
    Answered c path params perPage env lo' hi' page status text body :=
  let ⟨tick, after, before, reply⟩ := answered
  ⟨tick, Nat.le_trans low after, Nat.lt_of_lt_of_le before high, reply⟩

variable (c env)

/-- What `request` makes of the reply at this tick: the decoded body of a reply it does not
refuse, a `CloudflareError`, or the exception of a refusal test or message that fails on the
body. -/
theorem request_outcome (method path : String) (params : List (String × String))
    (s : Sys σ ε) :
    (c.request method path params env s).Meets
      (fun body t => t = { s with tick := s.tick + 1 } ∧ ∃ status text,
        env.reply s.tick (c.httpRequest method path params) = .response status text (some body) ∧
        refused status body = .ok false)
      fun o t => t = { s with tick := s.tick + 1 } ∧ ∀ e, o = some e → e.isCloudflare = true ∨
        ∃ status text body,
          env.reply s.tick (c.httpRequest method path params) = .response status text (some body) ∧
          (refused status body = .error e ∨
            refused status body = .ok true ∧ refusal body text = .error e) := by
  simp only [request, Py.run_bind, Py.run_http]
  rcases reply : env.reply s.tick (c.httpRequest method path params) with
    message | ⟨status, text, _ | body⟩
  · exact ⟨rfl, fun _ raised => by cases raised; exact .inl rfl⟩
  · exact ⟨rfl, fun _ raised => by cases raised; exact .inl rfl⟩
  · dsimp only
    rcases test : refused status body with e | _ | _ <;>
      simp only [Py.run_bind, Py.run_lift_ok, Py.run_lift_error, Bool.false_eq_true, if_false,
        if_true, Py.run_pure]
    · exact ⟨rfl, fun _ raised => by cases raised; exact .inr ⟨status, text, body, rfl, .inl test⟩⟩
    · exact ⟨rfl, status, text, rfl, test⟩
    · rcases message : refusal body text with e | _ <;>
        simp only [Py.run_lift_ok, Py.run_lift_error]
      · exact ⟨rfl, fun _ raised => by
          cases raised; exact .inr ⟨status, text, body, rfl, .inr ⟨test, message⟩⟩⟩
      · exact ⟨rfl, fun _ raised => by cases raised; exact .inl rfl⟩

variable (path params perPage)

/-- A page body's fault under a refusal test or message that fails. -/
theorem pageFault_of_request {status : Nat} {text : String} {body : JVal} {e : Exc} (page : Nat)
    (failed : refused status body = .error e ∨
      refused status body = .ok true ∧ refusal body text = .error e) :
    pageFault status text body page = some e := by
  rcases failed with test | ⟨test, message⟩
  · simp [pageFault, test]
  · simp [pageFault, test, message]

/-- **The page loop over any replies**: it returns the items gathered so far and items of the
batches of pages it read, or raises a `CloudflareError` or the fault of a page it read. -/
theorem pageLoop_outcome :
    ∀ (fuel page : Nat) (results : List JVal) (s : Sys σ ε),
      (c.pageLoop path params perPage fuel page results env s).Meets
        (fun items t => s.tick ≤ t.tick ∧ ∀ x ∈ items, x ∈ results ∨
          ∃ page status text body batch stop,
            Answered c path params perPage env s.tick t.tick page status text body ∧
            readPage body page = .ok (batch, stop) ∧ x ∈ batch)
        fun o t => s.tick ≤ t.tick ∧ ∀ e, o = some e → e.isCloudflare = true ∨
          ∃ page status text body,
            Answered c path params perPage env s.tick t.tick page status text body ∧
            pageFault status text body page = some e
  | 0, _, _, s => ⟨Nat.le_refl _, fun _ cut => by cases cut⟩
  | fuel + 1, page, results, s => by
    have first := request_outcome c env "GET" path (pageParams page perPage params) s
    simp only [pageLoop, Py.run_bind]
    revert first
    rcases c.request "GET" path (pageParams page perPage params) env s with body | ⟨e, t⟩ | t
    · rintro ⟨rfl, status, text, reply, test⟩
      have answered : Answered c path params perPage env s.tick (s.tick + 1) page status text body :=
        ⟨s.tick, Nat.le_refl _, Nat.lt_succ_self _, reply⟩
      dsimp only
      rcases read : readPage body page with e | ⟨batch, stop⟩ <;>
        simp only [Py.run_lift_ok, Py.run_lift_error]
      · exact ⟨Nat.le_succ _, fun _ raised => by
          cases raised; exact .inr ⟨page, status, text, body, answered, by simp [pageFault, test, read]⟩⟩
      · cases stop
        · have next := pageLoop_outcome fuel (page + 1) (results ++ batch)
            { s with tick := s.tick + 1 }
          simp only [Bool.false_eq_true, if_false]
          refine next.mono (fun _ _ ⟨later, gathered⟩ => ⟨Nat.le_of_succ_le later, fun x mem => ?_⟩)
            fun _ _ ⟨later, classified⟩ => ⟨Nat.le_of_succ_le later, fun e' raised =>
              (classified e' raised).imp_right fun ⟨p, st, tx, b, earlier, fault⟩ =>
                ⟨p, st, tx, b, earlier.mono (Nat.le_succ _) (Nat.le_refl _), fault⟩⟩
          rcases gathered x mem with old | ⟨p, st, tx, b, bt, sp, earlier, readEarlier, mem⟩
          · rcases List.mem_append.mp old with old | new
            · exact .inl old
            · exact .inr ⟨page, status, text, body, batch, false,
                answered.mono (Nat.le_refl _) later, read, new⟩
          · exact .inr ⟨p, st, tx, b, bt, sp, earlier.mono (Nat.le_succ _) (Nat.le_refl _),
              readEarlier, mem⟩
        · simp only [if_true, Py.run_pure]
          refine ⟨Nat.le_succ _, fun x mem => ?_⟩
          rcases List.mem_append.mp mem with old | new
          · exact .inl old
          · exact .inr ⟨page, status, text, body, batch, true, answered, read, new⟩
    · rintro ⟨rfl, classified⟩
      refine ⟨Nat.le_succ _, fun e' raised => ?_⟩
      rcases classified e' raised with cloudflare | ⟨status, text, body, reply, failed⟩
      · exact .inl cloudflare
      · exact .inr ⟨page, status, text, body, ⟨s.tick, Nat.le_refl _, Nat.lt_succ_self _, reply⟩,
          pageFault_of_request page failed⟩
    · rintro ⟨rfl, -⟩
      exact ⟨Nat.le_succ _, fun _ cut => by cases cut⟩

/-- `paginated_get` is the page loop from page 1 with nothing gathered. -/
theorem paginatedGet_meets (s : Sys σ ε) :
    (c.paginatedGet path params perPage env s).Meets
      (fun items t => ∀ x ∈ items, ∃ page status text body batch stop,
        Answered c path params perPage env s.tick t.tick page status text body ∧
        readPage body page = .ok (batch, stop) ∧ x ∈ batch)
      fun o t => ∀ e, o = some e → e.isCloudflare = true ∨ e.isCloudflare = false ∧
        ∃ page status text body,
          Answered c path params perPage env s.tick t.tick page status text body ∧
          pageFault status text body page = some e := by
  exact (pageLoop_outcome c path params perPage env env.fuel 1 [] s).mono
    (fun _ _ ⟨_, gathered⟩ x mem => (gathered x mem).resolve_left (List.not_mem_nil x))
    fun _ _ ⟨_, classified⟩ e raised => (classified e raised).imp_right fun fault =>
      ⟨let ⟨_, _, _, _, _, faulted⟩ := fault; pageFault_not_cloudflare faulted, fault⟩

end Replies

/-- A page body of the shape the specification assumes: a dict whose `success` is `true`,
whose `result` is a list, `null` or absent, and whose `result_info` is absent, `null`, or a
dict whose `total_pages` is an integer, `null` or absent. -/
def pageWellFormed : JVal → Bool
  | .obj fields =>
    (match fields.lookup "success" with
      | some (.bool true) => true
      | _ => false) &&
    (match fields.lookup "result" with
      | none | some .null | some (.arr _) => true
      | some _ => false) &&
    (match fields.lookup "result_info" with
      | none | some .null => true
      | some (.obj info) =>
        match info.lookup "total_pages" with
        | none | some .null => true
        | some (.num q) => q.den == 1
        | some _ => false
      | some _ => false)
  | _ => false

/-- The items of a page as the specification reads them: its `result` list, empty when
`result` is `null` or absent. -/
def pageItems : JVal → List JVal
  | .obj fields =>
    match fields.lookup "result" with
    | some (.arr items) => items
    | _ => []
  | _ => []

/-- The `total_pages` a page reports, `0` when it is absent or `null`. -/
def reportedTotal : JVal → Int
  | .obj fields =>
    match fields.lookup "result_info" with
    | some (.obj info) =>
      match info.lookup "total_pages" with
      | some (.num q) => q.num
      | _ => 0
    | _ => 0
  | _ => 0

@[simp] theorem orElse_arr_nil (xs : List JVal) : (JVal.arr xs).orElse (.arr []) = .arr xs := by
  cases xs <;> rfl

@[simp] theorem orElse_obj_nil (fs : List (String × JVal)) :
    (JVal.obj fs).orElse (.obj []) = .obj fs := by
  cases fs <;> rfl

/-- The loop body reads a well-formed page as the specification does: its items, and a stop
exactly when the reported total is at most the page number. -/
theorem readPage_wellFormed {body : JVal} (wellFormed : pageWellFormed body = true)
    (page : Nat) :
    readPage body page = .ok (pageItems body, decide (reportedTotal body ≤ page)) := by
  obtain _ | _ | _ | _ | _ | fields := body <;>
    simp only [pageWellFormed, Bool.false_eq_true, Bool.and_eq_true] at wellFormed
  obtain ⟨⟨-, result⟩, info⟩ := wellFormed
  have batch : (((fields.lookup "result").getD .null).orElse (.arr [])).iter =
      .ok (pageItems (.obj fields)) := by
    cases found : fields.lookup "result" with
    | none => simp [pageItems, found]
    | some r =>
      rw [found] at result
      cases r <;> simp_all [pageItems]
  have nonneg : (0 : Int) ≤ page := Int.natCast_nonneg page
  simp only [readPage, JVal.get_obj, batch, bind, Except.bind, pure, Except.pure]
  cases reported : fields.lookup "result_info" with
  | none => simp [reportedTotal, reported, JVal.truthy, nonneg]
  | some ri =>
    simp only [reported] at info
    cases ri with
    | null => simp [reportedTotal, reported, JVal.truthy, nonneg]
    | obj entries =>
      cases total : entries.lookup "total_pages" with
      | none => simp [reportedTotal, reported, total, JVal.truthy, nonneg]
      | some tp =>
        simp only [total] at info
        cases tp with
        | null => simp [reportedTotal, reported, total, JVal.truthy, nonneg]
        | num q =>
          have integral : q.den = 1 := by simpa using info
          by_cases zero : q = 0
          · simp [reportedTotal, reported, total, zero, JVal.truthy, nonneg]
          · have truthy : (JVal.num q).truthy = true := by simp [JVal.truthy, zero]
            simp [reportedTotal, reported, total, truthy, JVal.toInt, integral]
        | _ => simp at info
    | _ => simp at info

/-- A reply below status 400 with a well-formed body is not refused. -/
theorem refused_wellFormed {status : Nat} {body : JVal} (low : status < 400)
    (wellFormed : pageWellFormed body = true) : refused status body = .ok false := by
  obtain _ | _ | _ | _ | _ | fields := body <;>
    simp only [pageWellFormed, Bool.false_eq_true, Bool.and_eq_true] at wellFormed
  obtain ⟨⟨success, -⟩, -⟩ := wellFormed
  have accepted : fields.lookup "success" = some (.bool true) := by
    revert success
    rcases fields.lookup "success" with _ | ⟨_ | ⟨_ | _⟩ | _ | _ | _ | _⟩ <;> simp
  simp [refused, Nat.not_le.mpr low, accepted, bind, Except.bind, pure, Except.pure, JVal.truthy]

section WellFormed

variable (c : CloudflareClient) (path : String) (params : List (String × String))
  (perPage : Nat) (env : Env) {σ ε : Type}

/-- `request` passes a well-formed body below status 400 through. -/
theorem request_wellFormed {method : String} {query : List (String × String)} {s : Sys σ ε}
    {status : Nat} {text : String} {body : JVal}
    (reply : env.reply s.tick (c.httpRequest method path query) = .response status text (some body))
    (low : status < 400) (wellFormed : pageWellFormed body = true) :
    c.request method path query env s = .ok body { s with tick := s.tick + 1 } := by
  simp [request, reply, refused_wellFormed low wellFormed]

/-- The page loop over well-formed pages `page, ..., page + k`, of which only the last reports a
total at most its number, requests exactly those pages and returns their items in order. -/
theorem pageLoop_pages (bodies : Nat → JVal) :
    ∀ (k fuel page : Nat) (results : List JVal) (s : Sys σ ε),
      (∀ i ≤ k, ∃ status text, status < 400 ∧
        env.reply (s.tick + i) (c.httpRequest "GET" path (pageParams (page + i) perPage params)) =
          .response status text (some (bodies (page + i))) ∧
        pageWellFormed (bodies (page + i)) = true) →
      (∀ i < k, ((page + i : Nat) : Int) < reportedTotal (bodies (page + i))) →
      reportedTotal (bodies (page + k)) ≤ ((page + k : Nat) : Int) →
      k < fuel →
      c.pageLoop path params perPage fuel page results env s =
        .ok (results ++ (List.range' page (k + 1)).flatMap fun p => pageItems (bodies p))
          { s with tick := s.tick + (k + 1) }
  | _, 0, _, _, _, _, _, _, enough => absurd enough (Nat.not_lt_zero _)
  | k, fuel + 1, page, results, s, answered, continues, stops, enough => by
    obtain ⟨status, text, low, reply, wellFormed⟩ := answered 0 (Nat.zero_le k)
    simp only [Nat.add_zero] at reply wellFormed
    simp only [pageLoop, Py.run_bind, request_wellFormed c path env reply low wellFormed,
      Py.run_lift_ok, readPage_wellFormed wellFormed]
    cases k with
    | zero =>
      simp only [Nat.add_zero] at stops
      simp [stops]
    | succ k =>
      have more : ¬reportedTotal (bodies page) ≤ (page : Int) :=
        Int.not_le.mpr (by simpa using continues 0 (Nat.succ_pos k))
      simp only [more, decide_False, Bool.false_eq_true, if_false]
      rw [pageLoop_pages bodies k fuel (page + 1) _ _ ?_ ?_ ?_ (by omega)]
      · simp [List.range'_succ, Nat.add_assoc, Nat.add_comm 1]
      · intro i bound
        obtain ⟨status, text, low, reply, wellFormed⟩ := answered (i + 1) (by omega)
        refine ⟨status, text, low, ?_, ?_⟩
        · simpa [Nat.add_assoc, Nat.add_comm 1] using reply
        · simpa [Nat.add_assoc, Nat.add_comm 1] using wellFormed
      · intro i bound
        simpa [Nat.add_assoc, Nat.add_comm 1] using continues (i + 1) (by omega)
      · simpa [Nat.add_assoc, Nat.add_comm 1] using stops

variable {c path params perPage env}

/-- `paginated_get` over well-formed pages `1, ..., n`, of which only the last reports a total
at most its number, with fuel for `n` pages. -/
theorem paginatedGet_wellFormed {s : Sys σ ε} {bodies : Nat → JVal}
    (answered : ∀ p, 1 ≤ p → ∃ status text, status < 400 ∧
      env.reply (s.tick + (p - 1)) (c.httpRequest "GET" path (pageParams p perPage params)) =
        .response status text (some (bodies p)) ∧ pageWellFormed (bodies p) = true)
    (n : Nat) (positive : 1 ≤ n) (fuel : n ≤ env.fuel)
    (continues : ∀ p, 1 ≤ p → p < n → (p : Int) < reportedTotal (bodies p))
    (stops : reportedTotal (bodies n) ≤ n) :
    c.paginatedGet path params perPage env s =
      .ok ((List.range' 1 n).flatMap fun p => pageItems (bodies p)) { s with tick := s.tick + n } := by
  obtain ⟨k, rfl⟩ : ∃ k, n = k + 1 := ⟨n - 1, by omega⟩
  show c.pageLoop path params perPage env.fuel 1 [] env s = _
  have loop := pageLoop_pages c path params perPage env bodies k env.fuel 1 [] s
    (fun i _ => by simpa [Nat.add_comm 1] using answered (i + 1) (by omega))
    (fun i bound => by simpa [Nat.add_comm 1] using continues (i + 1) (by omega) (by omega))
    (by simpa [Nat.add_comm 1] using stops) (by omega)
  simpa using loop

/-- **`paginated_get` over well-formed pages.** When the provider answers every page request
below status 400 with a well-formed body, the loop requests pages `1, ..., n` for the least
`n ≥ 1` whose reported total is at most `n`, one request per tick, and returns the `result`
lists of those pages in page order. A total `T` reported by every page makes `max T 1`
requests; totals bounded by `B` make at most `max B 1`. Each bound assumes fuel for as many
pages. -/
theorem paginatedGet_pages (s : Sys σ ε) (bodies : Nat → JVal)
    (answered : ∀ p, 1 ≤ p → ∃ status text, status < 400 ∧
      env.reply (s.tick + (p - 1)) (c.httpRequest "GET" path (pageParams p perPage params)) =
        .response status text (some (bodies p)) ∧ pageWellFormed (bodies p) = true) :
    (∀ n, 1 ≤ n → n ≤ env.fuel → (∀ p, 1 ≤ p → p < n → (p : Int) < reportedTotal (bodies p)) →
      reportedTotal (bodies n) ≤ n →
      c.paginatedGet path params perPage env s =
        .ok ((List.range' 1 n).flatMap fun p => pageItems (bodies p))
          { s with tick := s.tick + n }) ∧
    (∀ T : Int, (∀ p, 1 ≤ p → reportedTotal (bodies p) = T) → max T 1 ≤ (env.fuel : Int) →
      c.paginatedGet path params perPage env s =
        .ok ((List.range' 1 (max T 1).toNat).flatMap fun p => pageItems (bodies p))
          { s with tick := s.tick + (max T 1).toNat }) ∧
    (∀ B : Int, (∀ p, 1 ≤ p → reportedTotal (bodies p) ≤ B) → max B 1 ≤ (env.fuel : Int) →
      ∃ n : Nat, 1 ≤ n ∧ (n : Int) ≤ max B 1 ∧
        c.paginatedGet path params perPage env s =
          .ok ((List.range' 1 n).flatMap fun p => pageItems (bodies p))
            { s with tick := s.tick + n }) := by
  refine ⟨paginatedGet_wellFormed answered, fun T same enough => ?_, fun B bounded enough => ?_⟩
  · refine paginatedGet_wellFormed answered _ (by omega) (by omega) (fun p low high => ?_) ?_
    · rw [same p low]
      omega
    · rw [same _ (by omega)]
      omega
  · have stopping : ∃ p, 1 ≤ p ∧ reportedTotal (bodies p) ≤ p :=
      ⟨(max B 1).toNat, by omega, by have := bounded (max B 1).toNat (by omega); omega⟩
    have least := Nat.find_min' stopping ⟨(by omega : 1 ≤ (max B 1).toNat),
      by have := bounded (max B 1).toNat (by omega); omega⟩
    obtain ⟨positive, stops⟩ := Nat.find_spec stopping
    refine ⟨Nat.find stopping, positive, by omega, paginatedGet_wellFormed answered _ positive
      (by omega) (fun p low high => ?_) stops⟩
    have early := Nat.find_min stopping high
    simp only [not_and, Int.not_le] at early
    exact early low

/-- A listing whose first page is well formed, below status 400, and reports no total above 1
is that page's items, after one request. -/
theorem paginatedGet_onePage {s : Sys σ ε} {status : Nat} {text : String} {body : JVal}
    (reply : env.reply s.tick (c.httpRequest "GET" path (pageParams 1 perPage params)) =
      .response status text (some body))
    (low : status < 400) (wellFormed : pageWellFormed body = true) (stops : reportedTotal body ≤ 1)
    (fuel : 1 ≤ env.fuel) :
    c.paginatedGet path params perPage env s = .ok (pageItems body) { s with tick := s.tick + 1 } := by
  show c.pageLoop path params perPage env.fuel 1 [] env s = _
  have loop := pageLoop_pages c path params perPage env (fun _ => body) 0 env.fuel 1 [] s
    (fun i bound => by
      obtain rfl : i = 0 := Nat.le_zero.mp bound
      exact ⟨status, text, low, reply, wellFormed⟩)
    (fun _ bound => absurd bound (Nat.not_lt_zero _)) stops fuel
  simpa using loop

end WellFormed

/-- A page of one zone whose listing reports two pages in all. -/
def twoPageBody : JVal :=
  .obj [("success", .bool true), ("result", .arr [.str "zone"]),
    ("result_info", .obj [("total_pages", .num 2)])]

/-- A provider that answers every request with `twoPageBody`; the listing may read up to three
pages. -/
def twoPageProvider : Env :=
  ⟨fun _ _ => .response 200 "" (some twoPageBody), fun _ _ => none, fun _ => 0,
    fun _ _ _ => none, fun _ => none, 3⟩

theorem paginatedGet_pages_twoPages :
    (CloudflareClient.new ⟨"https://api.cloudflare.com/client/v4", none, none, some "token",
      ["a1"]⟩).paginatedGet "/zones" [] 50 twoPageProvider (Sys.session () 0 0 [] : Sys Unit Unit) =
      .ok [.str "zone", .str "zone"] (Sys.session () 0 2 []) :=
  (@paginatedGet_pages (CloudflareClient.new ⟨"https://api.cloudflare.com/client/v4", none, none,
      some "token", ["a1"]⟩) "/zones" [] 50 twoPageProvider Unit Unit (Sys.session () 0 0 [])
    (fun _ => twoPageBody) fun _ _ => ⟨200, "", by decide, rfl, rfl⟩).2.1 2 (fun _ _ => rfl)
    (by decide)

/-- A page whose body is well formed but whose status is 500 makes `paginated_get` raise a
`CloudflareError` instead of returning the page. -/
theorem paginatedGet_refuses_wellFormed_page :
    pageWellFormed (.obj [("success", .bool true), ("result", .arr [.str "zone"])]) = true ∧
    ∃ e, (CloudflareClient.new ⟨"https://api.cloudflare.com/client/v4", none, none,
      some "token", ["a1"]⟩).paginatedGet "/zones" [] 50
      ⟨fun _ _ => .response 500 "" (some (.obj [("success", .bool true),
        ("result", .arr [.str "zone"])])), fun _ _ => none, fun _ => 0, fun _ _ _ => none,
        fun _ => none, 1⟩ (Sys.session () 0 0 [] : Sys Unit Unit) =
      .error e (Sys.session () 0 1 []) ∧ e.isCloudflare = true :=
  ⟨rfl, _, rfl, rfl⟩

end CloudflareClient

end CloudflareSync
