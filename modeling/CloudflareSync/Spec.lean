import CloudflareSync.Runtime

/-!
# A program logic for `Py`

`Spec env pre m post abort` is partial correctness with exceptions: from a world satisfying
`pre`, the program `m` run in `env` returns `a` in a world satisfying `post a`, or raises `e`
in a world satisfying `abort (some e)`, or is cut off in a world satisfying `abort none`. The
world after an exception is constrained as much as the world after a return, because a
Python exception leaves the open transaction and the log as they were when it was raised.

The rules follow the combinators of `Runtime`: `Spec.bind` chains a program with its
continuation, `Spec.tryExcept` hands the caught exceptions to the handler and lets the others
through, and each primitive has one rule that says what it does to the world. Loop lemmas of
the engines are then proved by induction over the list the loop walks, one `Spec.bind` per
statement of the loop body.
-/

set_option autoImplicit false

namespace CloudflareSync

variable {σ ε α β : Type}

/-- What an outcome owes to a postcondition and an abort condition. -/
def Res.Meets (post : α → Sys σ ε → Prop) (abort : Option Exc → Sys σ ε → Prop) :
    Res (Sys σ ε) α → Prop
  | .ok a t => post a t
  | .error e t => abort (some e) t
  | .diverge t => abort none t

@[simp] theorem Res.meets_ok (post : α → Sys σ ε → Prop) (abort : Option Exc → Sys σ ε → Prop)
    (a : α) (t : Sys σ ε) : (Res.ok a t).Meets post abort ↔ post a t := Iff.rfl
@[simp] theorem Res.meets_error (post : α → Sys σ ε → Prop)
    (abort : Option Exc → Sys σ ε → Prop) (e : Exc) (t : Sys σ ε) :
    (Res.error e t).Meets post abort ↔ abort (some e) t := Iff.rfl
@[simp] theorem Res.meets_diverge (post : α → Sys σ ε → Prop)
    (abort : Option Exc → Sys σ ε → Prop) (t : Sys σ ε) :
    (Res.diverge t : Res (Sys σ ε) α).Meets post abort ↔ abort none t := Iff.rfl

/-- An outcome that meets a postcondition and an abort condition meets weaker ones. -/
theorem Res.Meets.mono {post post' : α → Sys σ ε → Prop}
    {abort abort' : Option Exc → Sys σ ε → Prop} {r : Res (Sys σ ε) α} (h : r.Meets post abort)
    (hpost : ∀ a t, post a t → post' a t) (habort : ∀ o t, abort o t → abort' o t) :
    r.Meets post' abort' := by
  cases r with
  | ok a t => exact hpost a t h
  | error e t => exact habort _ t h
  | diverge t => exact habort none t h

/-- Partial correctness of `m` in `env`, with a postcondition for a normal return and an
abort condition for an exception (`some e`) or a cut-off (`none`). -/
def Spec (env : Env) (pre : Sys σ ε → Prop) (m : Py σ ε α) (post : α → Sys σ ε → Prop)
    (abort : Option Exc → Sys σ ε → Prop) : Prop :=
  ∀ s, pre s → (m env s).Meets post abort

namespace Spec

variable {env : Env} {pre pre' : Sys σ ε → Prop} {post post' : α → Sys σ ε → Prop}
  {abort abort' : Option Exc → Sys σ ε → Prop}

theorem conseq {m : Py σ ε α} (h : Spec env pre m post abort) (hpre : ∀ s, pre' s → pre s)
    (hpost : ∀ a s, post a s → post' a s) (habort : ∀ o s, abort o s → abort' o s) :
    Spec env pre' m post' abort' :=
  fun s hs => (h s (hpre s hs)).mono hpost habort

/-- A program that can neither raise nor be cut off returns, from every world that meets the
precondition. -/
theorem returns {m : Py σ ε α} (h : Spec env pre m post fun _ _ => False) {s : Sys σ ε}
    (hs : pre s) : ∃ a t, m env s = .ok a t ∧ post a t := by
  have meets := h s hs
  revert meets
  cases m env s with
  | ok a t => exact fun holds => ⟨a, t, rfl, holds⟩
  | error e t => exact False.elim
  | diverge t => exact False.elim

theorem and {m : Py σ ε α} {post₁ post₂ : α → Sys σ ε → Prop}
    {abort₁ abort₂ : Option Exc → Sys σ ε → Prop} (h₁ : Spec env pre m post₁ abort₁)
    (h₂ : Spec env pre m post₂ abort₂) :
    Spec env pre m (fun a t => post₁ a t ∧ post₂ a t) (fun o t => abort₁ o t ∧ abort₂ o t) := by
  intro s hs
  have first := h₁ s hs
  have second := h₂ s hs
  revert first second
  cases m env s <;> simp only [Res.meets_ok, Res.meets_error, Res.meets_diverge] <;> exact And.intro

theorem pure {a : α} (h : ∀ s, pre s → post a s) : Spec env pre (pure a : Py σ ε α) post abort :=
  h

theorem raise {e : Exc} (h : ∀ s, pre s → abort (some e) s) :
    Spec env pre (Py.raise e : Py σ ε α) post abort := h

theorem lift {x : Except Exc α}
    (h : ∀ s, pre s → match x with
      | .ok a => post a s
      | .error e => abort (some e) s) : Spec env pre (Py.lift x : Py σ ε α) post abort := by
  intro s hs
  have := h s hs
  cases x <;> exact this

theorem bind {m : Py σ ε α} {k : α → Py σ ε β} {mid : α → Sys σ ε → Prop}
    {post : β → Sys σ ε → Prop} (hm : Spec env pre m mid abort)
    (hk : ∀ a, Spec env (mid a) (k a) post abort) : Spec env pre (m >>= k) post abort := by
  intro s hs
  have first := hm s hs
  simp only [Py.run_bind]
  revert first
  cases m env s with
  | ok a t => exact hk a t
  | error e t => exact id
  | diverge t => exact id

theorem tryExcept {handles : Exc → Bool} {m : Py σ ε α} {handler : Exc → Py σ ε α}
    {mid : Option Exc → Sys σ ε → Prop} (hm : Spec env pre m post mid)
    (hh : ∀ e, handles e = true → Spec env (mid (some e)) (handler e) post abort)
    (hpass : ∀ o t, mid o t → (∀ e, o = some e → handles e = false) → abort o t) :
    Spec env pre (Py.tryExcept handles m handler) post abort := by
  intro s hs
  have first := hm s hs
  simp only [Py.run_tryExcept]
  revert first
  cases m env s with
  | ok a t => exact id
  | error e t =>
    intro caught
    by_cases he : handles e = true
    · simpa [he] using hh e he t caught
    · simpa [he] using hpass (some e) t caught (by simpa using he)
  | diverge t => exact fun cut => hpass none t cut (by simp)

theorem ite {c : Prop} [Decidable c] {m m' : Py σ ε α} (h : c → Spec env pre m post abort)
    (h' : ¬c → Spec env pre m' post abort) :
    Spec env pre (if c then m else m') post abort := by
  split
  · exact h ‹c›
  · exact h' ‹¬c›

/-- A program that relates every start to the world it ends in by `R`. -/
theorem of_moves {R : Sys σ ε → Sys σ ε → Prop} {m : Py σ ε α} (hm : Py.Moves R m)
    (hpost : ∀ a s t, pre s → R s t → post a t)
    (habort : ∀ o s t, pre s → R s t → abort o t) : Spec env pre m post abort := by
  intro s hs
  have moved := hm env s
  cases h : m env s <;> rw [h] at moved
  · exact hpost _ s _ hs moved
  · exact habort _ s _ hs moved
  · exact habort _ s _ hs moved

theorem of_quiet {m : Py σ ε α} (hq : Py.Quiet m)
    (hpost : ∀ a s t, pre s → t.data = s.data → post a t)
    (habort : ∀ o s t, pre s → t.data = s.data → abort o t) : Spec env pre m post abort :=
  of_moves hq hpost habort

/-- `Py.attempt m` returns what `m` returned, or the exception `m` raised as a value; only a
cut-off passes through. -/
theorem attempt {m : Py σ ε α} {post : α → Sys σ ε → Prop} {mid : Option Exc → Sys σ ε → Prop}
    (hm : Spec env pre m post mid) (cut : ∀ t, mid none t → abort none t) :
    Spec env pre (Py.attempt m) (fun r t => match r with
      | .ok a => post a t
      | .error e => mid (some e) t) abort := by
  intro s hs
  have first := hm s hs
  rw [Py.run_attempt]
  revert first
  cases m env s with
  | ok a t => exact id
  | error e t => exact id
  | diverge t => exact cut t

/-- A `SELECT` keeps every fact about the world but its tick, and returns what `read` reads
off the open transaction. -/
theorem query_and {Q : Sys σ ε → Prop} {table : String} {read : σ → α}
    (keeps : ∀ s : Sys σ ε, Q s → Q { s with tick := s.tick + 1 }) :
    Spec env Q (Py.query table read) (fun a t => Q t ∧ a = read t.pending) fun _ => Q := by
  intro s hs
  simp only [Py.query, Py.execute]
  split
  · exact keeps s hs
  · exact ⟨keeps s hs, rfl⟩

/-- A step that raises or returns without touching the world keeps the precondition. -/
theorem lift_frame {x : Except Exc α} (h : ∀ o s, pre s → abort o s) :
    Spec env pre (Py.lift x : Py σ ε α) (fun _ => pre) abort :=
  lift fun s hs => by cases x <;> simp [hs, h _ s hs]

/-- A lifted step, with the value it returned recorded in the postcondition. -/
theorem lift_pre {x : Except Exc α} (h : ∀ e s, pre s → x = .error e → abort (some e) s) :
    Spec env pre (Py.lift x : Py σ ε α) (fun a s => pre s ∧ x = .ok a) abort :=
  lift fun s hs => by
    cases x with
    | ok a => exact ⟨hs, rfl⟩
    | error e => exact h e s hs rfl

/-- A fact about values, carried in the precondition, moves into the context. -/
theorem pure_pre {P : Prop} {m : Py σ ε α} (h : P → Spec env pre m post abort) :
    Spec env (fun s => pre s ∧ P) m post abort :=
  fun s hs => h hs.2 s hs.1

/-- A first step whose returned value is known: the rest runs on that value. -/
theorem bind_known {m : Py σ ε α} {k : α → Py σ ε β} {mid : Sys σ ε → Prop} {a : α}
    {post : β → Sys σ ε → Prop} (hm : Spec env pre m (fun b s => mid s ∧ b = a) abort)
    (hk : Spec env mid (k a) post abort) : Spec env pre (m >>= k) post abort :=
  bind hm fun _ => pure_pre fun same => same ▸ hk

/-- A witness in the precondition moves into the context. -/
theorem exists_pre {ι : Type} {P : ι → Sys σ ε → Prop} {m : Py σ ε α}
    (h : ∀ x, Spec env (P x) m post abort) : Spec env (fun s => ∃ x, P x s) m post abort :=
  fun s ⟨x, hx⟩ => h x s hx

/-- Reading the tick keeps the world. -/
theorem now : Spec env pre (Py.now : Py σ ε Nat) (fun _ => pre) abort := fun _ h => h

theorem env' {k : Env → Py σ ε α} (h : Spec env pre (k env) post abort) :
    Spec env pre (Py.env >>= k) post abort := h

theorem execute {table : String} {stmt : σ → Nat → σ × Nat × α}
    (h : ∀ s, pre s →
      (∀ code message, abort (some (.database code message)) { s with tick := s.tick + 1 }) ∧
      let r := stmt s.pending s.autoInc
      post r.2.2 { s with pending := r.1, autoInc := r.2.1, tick := s.tick + 1 }) :
    Spec env pre (Py.execute table stmt) post abort := by
  intro s hs
  simp only [Py.execute]
  split
  · exact (h s hs).1 _ _
  · exact (h s hs).2

theorem update {table : String} {f : σ → σ} {post : Unit → Sys σ ε → Prop}
    (h : ∀ s, pre s →
      (∀ code message, abort (some (.database code message)) { s with tick := s.tick + 1 }) ∧
      post () { s with pending := f s.pending, tick := s.tick + 1 }) :
    Spec env pre (Py.update table f) post abort := execute h

theorem commit {post : Unit → Sys σ ε → Prop}
    (h : ∀ s, pre s →
      (∀ code message, abort (some (.database code message)) { s with tick := s.tick + 1 }) ∧
      post () { s with committed := s.pending, tick := s.tick + 1 }) :
    Spec env pre (Py.commit : Py σ ε Unit) post abort := by
  intro s hs
  simp only [Py.commit]
  split
  · exact (h s hs).1 _ _
  · exact (h s hs).2

theorem rollback {post : Unit → Sys σ ε → Prop}
    (h : ∀ s, pre s →
      (∀ code message, abort (some (.database code message)) { s with tick := s.tick + 1 }) ∧
      post () { s with pending := s.committed, tick := s.tick + 1 }) :
    Spec env pre (Py.rollback : Py σ ε Unit) post abort := by
  intro s hs
  simp only [Py.rollback]
  split
  · exact (h s hs).1 _ _
  · exact (h s hs).2

theorem emit {entry : ε} {post : Unit → Sys σ ε → Prop}
    (h : ∀ s, pre s → post () { s with log := s.log ++ [entry] }) :
    Spec env pre (Py.emit entry) post abort := h

/-- A log entry, against a log known up to it. -/
theorem emit_log {L : List ε} {entry : ε} :
    Spec env (fun s => s.log = L) (Py.emit entry) (fun _ t => t.log = L ++ [entry]) abort :=
  emit fun _ hs => by simp [hs]

/-- A log line, against a log known up to it, keeps any fact about the rest of the world. -/
theorem emit_and {Q : Sys σ ε → Prop} {L : List ε} {entry : ε}
    (keeps : ∀ s, Q s → Q { s with log := s.log ++ [entry] }) :
    Spec env (fun s => s.log = L ∧ Q s) (Py.emit entry) (fun _ t => t.log = L ++ [entry] ∧ Q t)
      abort :=
  emit fun s ⟨log, holds⟩ => ⟨by simp [log], keeps s holds⟩

/-- A statement keeps a log known up to it. -/
theorem execute_log {L : List ε} {table : String} {stmt : σ → Nat → σ × Nat × α}
    (refused : ∀ code message (s : Sys σ ε), s.log = L →
      abort (some (.database code message)) { s with tick := s.tick + 1 }) :
    Spec env (fun s => s.log = L) (Py.execute table stmt) (fun _ t => t.log = L) abort :=
  execute fun s log => ⟨fun code message => refused code message s log, log⟩

/-- A commit keeps a log known up to it. -/
theorem commit_log {L : List ε}
    (refused : ∀ code message (s : Sys σ ε), s.log = L →
      abort (some (.database code message)) { s with tick := s.tick + 1 }) :
    Spec env (fun s => s.log = L) (Py.commit : Py σ ε Unit) (fun _ t => t.log = L) abort :=
  commit fun s log => ⟨fun code message => refused code message s log, log⟩

/-- A program that logs nothing keeps a log known up to it, on every outcome. -/
theorem of_silent {L : List ε} {m : Py σ ε α} (hm : Py.Silent m) :
    Spec env (fun s => s.log = L) m (fun _ t => t.log = L) fun _ t => t.log = L := by
  intro s hs
  have same := hm env s
  cases h : m env s <;> (rw [h] at same; exact same.trans hs)

theorem close {post : Unit → Sys σ ε → Prop}
    (h : ∀ s, pre s → post () { s with pending := s.committed }) :
    Spec env pre (Py.close : Py σ ε Unit) post abort := h

/-- `try: m finally: conn.close()`: the outcome of `m`, in a world without its open
transaction. -/
theorem tryFinally_close {m : Py σ ε α} (hm : Spec env pre m post abort)
    (keeps : ∀ a t, post a t → post a { t with pending := t.committed })
    (keeps' : ∀ o t, abort o t → abort o { t with pending := t.committed }) :
    Spec env pre (Py.tryFinally m Py.close) post abort := by
  intro s hs
  have first := hm s hs
  unfold Py.tryFinally
  revert first
  cases m env s with
  | ok a t => exact keeps a t
  | error e t => exact keeps' _ t
  | diverge t => exact id

/-- Closing the connection keeps any fact that the loss of the open transaction keeps. -/
theorem close_and {Q : Sys σ ε → Prop} (keeps : ∀ s, Q s → Q { s with pending := s.committed }) :
    Spec env Q (Py.close : Py σ ε Unit) (fun _ => Q) abort := keeps

/-- A program that keeps `Q` along every run, under `Py.attempt`: it returns with `Q`, or is
cut off. -/
theorem attempt_of_moves {R : Sys σ ε → Sys σ ε → Prop} {m : Py σ ε α} (hm : Py.Moves R m)
    {Q : Sys σ ε → Prop} (keeps : ∀ s t, Q s → R s t → Q t) (cut : ∀ t, Q t → abort none t) :
    Spec env Q (Py.attempt m) (fun _ => Q) abort := by
  have kept : Spec env Q m (fun _ => Q) fun _ => Q := of_moves hm (fun _ => keeps) fun _ => keeps
  exact conseq (attempt kept cut) (fun _ h => h) (fun r _ h => by cases r <;> exact h)
    fun _ _ h => h

/-! ### Against a steady environment

A steady environment accepts every statement and answers every request the same way, so a
statement, a commit, a connection and a request each have one outcome. -/

section Steady

variable (steady : env.Steady)

include steady

theorem execute_steady {table : String} {stmt : σ → Nat → σ × Nat × α}
    (h : ∀ s, pre s → let r := stmt s.pending s.autoInc
      post r.2.2 { s with pending := r.1, autoInc := r.2.1, tick := s.tick + 1 }) :
    Spec env pre (Py.execute table stmt) post abort := by
  intro s hs
  simp only [Py.execute, steady.accepts]
  exact h s hs

theorem commit_steady {post : Unit → Sys σ ε → Prop}
    (h : ∀ s, pre s → post () { s with committed := s.pending, tick := s.tick + 1 }) :
    Spec env pre (Py.commit : Py σ ε Unit) post abort := by
  intro s hs
  simp only [Py.commit, steady.accepts]
  exact h s hs

theorem connect_steady {host : String} {post : Unit → Sys σ ε → Prop}
    (h : ∀ s, pre s → post () { s with pending := s.committed, tick := s.tick + 1 }) :
    Spec env pre (Py.connect host : Py σ ε Unit) post abort := by
  intro s hs
  simp only [Py.connect, steady.accepts]
  exact h s hs

end Steady

end Spec

/-! ## Programs that stage until they return -/

/-- `m` commits and logs nothing unless it returns: an exception or a cut-off leaves the store
and the log as they were, and the AUTO_INCREMENT counter has not gone down. -/
def Py.Unwinds (m : Py σ ε α) : Prop :=
  ∀ env s, (m env s).Meets (fun _ _ => True) fun _ t => Py.Staged s t

namespace Py.Unwinds

theorem of_staging {m : Py σ ε α} (hm : Py.Staging m) : Py.Unwinds m := by
  intro env s
  have staged := hm env s
  cases h : m env s with
  | ok => trivial
  | error e t => rw [h] at staged; exact staged
  | diverge t => rw [h] at staged; exact staged

/-- Staging steps followed by a program that unwinds. -/
theorem bind {m : Py σ ε α} {k : α → Py σ ε β} (hm : Py.Staging m) (hk : ∀ a, Py.Unwinds (k a)) :
    Py.Unwinds (m >>= k) := by
  intro env s
  have first := hm env s
  simp only [Py.run_bind]
  cases h : m env s with
  | ok a s' =>
    rw [h, Res.world_ok] at first
    have rest := hk a env s'
    show (k a env s').Meets _ _
    cases h' : k a env s' with
    | ok => trivial
    | error e t => rw [h'] at rest; exact first.trans rest
    | diverge t => rw [h'] at rest; exact first.trans rest
  | error e t => rw [h] at first; exact first
  | diverge t => rw [h] at first; exact first

/-- A program that unwinds, followed by a return. -/
theorem map {m : Py σ ε α} (hm : Py.Unwinds m) (f : α → β) :
    Py.Unwinds (m >>= fun a => pure (f a)) := by
  intro env s
  have first := hm env s
  simp only [Py.run_bind]
  revert first
  cases m env s <;> simp

theorem commit : Py.Unwinds (Py.commit : Py σ ε Unit) := by
  intro env s
  simp only [Py.commit]
  split
  · exact ⟨rfl, rfl, le_refl _⟩
  · trivial

end Py.Unwinds

/-- A program that unwinds is specified by its normal returns: every other outcome ends in a
world staged from the start. -/
theorem Spec.of_unwinds {env : Env} {pre : Sys σ ε → Prop} {post : α → Sys σ ε → Prop}
    {abort : Option Exc → Sys σ ε → Prop} {m : Py σ ε α} (hm : Py.Unwinds m)
    (hok : ∀ s a t, pre s → m env s = .ok a t → post a t)
    (habort : ∀ o s t, pre s → Py.Staged s t → abort o t) : Spec env pre m post abort := by
  intro s hs
  have unwound := hm env s
  cases h : m env s with
  | ok a t => exact hok s a t hs h
  | error e t => rw [h] at unwound; exact habort _ s t hs unwound
  | diverge t => rw [h] at unwound; exact habort _ s t hs unwound

end CloudflareSync
