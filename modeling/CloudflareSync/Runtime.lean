import CloudflareSync.Value

/-!
# The runtime a sync script runs against

A script run is a Python program that talks to two outside parties, the Cloudflare API over
`requests` and a MySQL server over one `pymysql` connection, and that raises and catches
exceptions. This module gives that runtime one shallow embedding, `Py σ ε α`: a program reads
the environment `Env`, acts on the world `Sys σ ε`, and ends in a `Res`, which keeps the world
on every outcome. That matters for Python: a statement executed before an exception stays in
the open transaction, and a later `commit` or `close` decides whether it survives.

The world holds the database as two stores of type `σ`: `committed`, which other sessions and
later runs see, and `pending`, the connection's open transaction (`autocommit=False`).
`execute` acts on `pending`, `commit` copies it to `committed`, `rollback` and `close` throw it
away. The AUTO_INCREMENT counter `autoInc` lives outside both stores, because MySQL does not
give back ids on rollback. The log `log : List ε` records the steps of a run with the data
each step acted on; every entry stands where the script calls `logging`.

The environment answers every request and decides every statement's fate by a counter,
`tick`, that each such step advances. So an `Env` is any behaviour of the provider and of the
database over a run: any sequence of replies, and any pattern of failing statements.

A run that would never end (a listing whose reported page count keeps growing) is cut off
after `Env.fuel` pages and ends in `Res.diverge`; no `except` clause catches that.
-/

set_option autoImplicit false

namespace CloudflareSync

/-- An HTTP request as `requests.request` receives it. -/
structure Request where
  method : String
  url : String
  headers : List (String × String)
  params : List (String × String)
  deriving DecidableEq, Repr

/-- What `requests.request` gives back: a transport failure, or a response with its status
code, its text, and what `resp.json()` decodes from the text (`none` when that raises). -/
inductive Reply where
  | failed (message : String)
  | response (status : Nat) (text : String) (json : Option JVal)
  deriving DecidableEq, Repr

/-- Everything a run meets outside the script: the provider's reply to the request made at
each tick, the database error (if any) of the operation made at each tick on its target (the
table of a statement, `COMMIT`, `ROLLBACK`, or the host of a connection attempt), the random
draws, and two library functions the
model does not unfold: the AES-GCM opening of a sealed secret under the process key (`none`
when the tag does not verify), and `datetime.fromisoformat(s).strftime("%Y-%m-%d %H:%M:%S")`
(`none` when `fromisoformat` raises `ValueError`). `fuel` bounds the pages of one listing. -/
structure Env where
  reply : Nat → Request → Reply
  refuse : Nat → String → Option (Nat × String)
  draw : Nat → Nat
  decryptGcm : List UInt8 → List UInt8 → List UInt8 → Option (List UInt8)
  isoTimestamp : String → Option String
  fuel : Nat

/-- A provider that answers each request the same way whenever it is made and never fails in
transport, and a server that accepts every statement, commit and connection: the setting of a
run against a fixed provider snapshot. -/
structure Env.Steady (env : Env) : Prop where
  snapshot : ∀ tick req, env.reply tick req = env.reply 0 req
  reachable : ∀ tick req message, env.reply tick req ≠ .failed message
  accepts : ∀ tick target, env.refuse tick target = none

/-- The world a run acts on: the committed store, the open transaction, the AUTO_INCREMENT
counter, the tick of the next outside step, and the log. -/
structure Sys (σ ε : Type) where
  committed : σ
  pending : σ
  autoInc : Nat
  tick : Nat
  log : List ε

/-- The database and the log of a world: all of it but the tick. -/
def Sys.data {σ ε : Type} (s : Sys σ ε) : σ × σ × Nat × List ε :=
  (s.committed, s.pending, s.autoInc, s.log)

/-- A fresh session on a server whose committed store is `db`: nothing is pending. -/
def Sys.session {σ ε : Type} (db : σ) (autoInc tick : Nat) (log : List ε) : Sys σ ε :=
  ⟨db, db, autoInc, tick, log⟩

/-- How a program ends: with a value, with an exception, or cut off as diverging. Each
outcome keeps the world it ends in. -/
inductive Res (S α : Type) where
  | ok (value : α) (world : S)
  | error (exc : Exc) (world : S)
  | diverge (world : S)

/-- The world an outcome ends in. -/
def Res.world {S α : Type} : Res S α → S
  | .ok _ w | .error _ w | .diverge w => w

/-- The exit status `sys.exit(main())` gives a run of `main`: the code it returns, or `1` for
an exception that escapes it; a run cut off as diverging never exits. -/
def Res.exitStatus {S : Type} : Res S Nat → Option Nat
  | .ok code _ => some code
  | .error _ _ => some 1
  | .diverge _ => none

@[simp] theorem Res.world_ok {S α : Type} (a : α) (w : S) : (Res.ok a w).world = w := rfl
@[simp] theorem Res.world_error {S α : Type} (e : Exc) (w : S) :
    (Res.error e w : Res S α).world = w := rfl
@[simp] theorem Res.world_diverge {S α : Type} (w : S) :
    (Res.diverge w : Res S α).world = w := rfl

/-- A Python program over store `σ` and log entries `ε`, returning `α`. -/
def Py (σ ε α : Type) : Type := Env → Sys σ ε → Res (Sys σ ε) α

namespace Py

variable {σ ε α β : Type}

/-- Sequencing: the continuation runs only after a normal return. -/
def bind (m : Py σ ε α) (k : α → Py σ ε β) : Py σ ε β := fun env s =>
  match m env s with
  | .ok a s' => k a env s'
  | .error e s' => .error e s'
  | .diverge s' => .diverge s'

instance : Monad (Py σ ε) where
  pure a := fun _ s => .ok a s
  bind := bind

@[simp] theorem run_pure (a : α) (env : Env) (s : Sys σ ε) :
    (pure a : Py σ ε α) env s = .ok a s := rfl

@[simp] theorem run_bind (m : Py σ ε α) (k : α → Py σ ε β) (env : Env) (s : Sys σ ε) :
    (m >>= k) env s = match m env s with
      | .ok a s' => k a env s'
      | .error e s' => .error e s'
      | .diverge s' => .diverge s' := rfl

/-- `raise e`. -/
def raise (e : Exc) : Py σ ε α := fun _ s => .error e s

/-- A pure Python computation that may raise. -/
def lift (x : Except Exc α) : Py σ ε α := fun _ s =>
  match x with
  | .ok a => .ok a s
  | .error e => .error e s

/-- A loop the model cuts off. -/
def diverge : Py σ ε α := fun _ s => .diverge s

/-- The environment. -/
def env : Py σ ε Env := fun env s => .ok env s

@[simp] theorem run_raise (e : Exc) (env : Env) (s : Sys σ ε) :
    (raise e : Py σ ε α) env s = .error e s := rfl
@[simp] theorem run_lift_ok (a : α) (env : Env) (s : Sys σ ε) :
    (lift (.ok a) : Py σ ε α) env s = .ok a s := rfl
@[simp] theorem run_lift_error (e : Exc) (env : Env) (s : Sys σ ε) :
    (lift (.error e) : Py σ ε α) env s = .error e s := rfl
@[simp] theorem run_diverge (env : Env) (s : Sys σ ε) :
    (diverge : Py σ ε α) env s = .diverge s := rfl
@[simp] theorem run_env (env : Env) (s : Sys σ ε) : (Py.env : Py σ ε Env) env s = .ok env s :=
  rfl

/-- `try: m except E as e: handler(e)`, where `handles` is the `isinstance` test of the
clause. Divergence passes through. -/
def tryExcept (handles : Exc → Bool) (m : Py σ ε α) (handler : Exc → Py σ ε α) : Py σ ε α :=
  fun env s =>
    match m env s with
    | .ok a s' => .ok a s'
    | .error e s' => if handles e then handler e env s' else .error e s'
    | .diverge s' => .diverge s'

/-- `try: m finally: cleanup`: the cleanup runs after a return and after an exception, and
an exception it raises replaces the one in flight. -/
def tryFinally (m : Py σ ε α) (cleanup : Py σ ε Unit) : Py σ ε α := fun env s =>
  match m env s with
  | .ok a s' =>
    match cleanup env s' with
    | .ok _ s'' => .ok a s''
    | .error e s'' => .error e s''
    | .diverge s'' => .diverge s''
  | .error e s' =>
    match cleanup env s' with
    | .ok _ s'' => .error e s''
    | .error e' s'' => .error e' s''
    | .diverge s'' => .diverge s''
  | .diverge s' => .diverge s'

@[simp] theorem run_tryExcept (handles : Exc → Bool) (m : Py σ ε α) (handler : Exc → Py σ ε α)
    (env : Env) (s : Sys σ ε) :
    tryExcept handles m handler env s = match m env s with
      | .ok a s' => .ok a s'
      | .error e s' => if handles e then handler e env s' else .error e s'
      | .diverge s' => .diverge s' := rfl

/-- `try: ... except Exception as e:` with the exception bound as a value: the body's return,
or the exception it raised. -/
def attempt (m : Py σ ε α) : Py σ ε (Except Exc α) :=
  tryExcept (fun _ => true) (Except.ok <$> m) fun e => pure (.error e)

@[simp] theorem run_attempt (m : Py σ ε α) (env : Env) (s : Sys σ ε) :
    attempt m env s = match m env s with
      | .ok a s' => .ok (.ok a) s'
      | .error e s' => .ok (.error e) s'
      | .diverge s' => .diverge s' := by
  have mapped : (Except.ok <$> m : Py σ ε (Except Exc α)) env s = match m env s with
      | .ok a s' => .ok (.ok a) s'
      | .error e s' => .error e s'
      | .diverge s' => .diverge s' := rfl
  simp only [attempt, run_tryExcept, mapped]
  cases m env s <;> rfl

/-- Take the tick of one outside step. -/
def tick : Py σ ε Nat := fun _ s => .ok s.tick { s with tick := s.tick + 1 }

/-- The tick of the next outside step, read without taking it: the model's record of when a
step of the run happened, which no Python statement performs. -/
def now : Py σ ε Nat := fun _ s => .ok s.tick s

/-- `requests.request(...)`: the provider's reply at this tick. -/
def http (req : Request) : Py σ ε Reply := fun env s =>
  .ok (env.reply s.tick req) { s with tick := s.tick + 1 }

/-- One SQL statement on `table` in the open transaction: at this tick the server either
refuses it with an error, leaving the transaction as it was, or applies it. `stmt` maps the
open transaction and the AUTO_INCREMENT counter to their new values and the statement's
result. -/
def execute (table : String) (stmt : σ → Nat → σ × Nat × α) : Py σ ε α := fun env s =>
  match env.refuse s.tick table with
  | some (code, message) => .error (.database code message) { s with tick := s.tick + 1 }
  | none =>
    let r := stmt s.pending s.autoInc
    .ok r.2.2 { s with pending := r.1, autoInc := r.2.1, tick := s.tick + 1 }

/-- A statement that allocates no id. -/
def update (table : String) (f : σ → σ) : Py σ ε Unit := execute table fun st n => (f st, n, ())

/-- A `SELECT`. -/
def query (table : String) (read : σ → α) : Py σ ε α := execute table fun st n => (st, n, read st)

/-- `conn.commit()`: when the server accepts it, the open transaction becomes the store. -/
def commit : Py σ ε Unit := fun env s =>
  match env.refuse s.tick "COMMIT" with
  | some (code, message) => .error (.database code message) { s with tick := s.tick + 1 }
  | none => .ok () { s with committed := s.pending, tick := s.tick + 1 }

/-- `conn.rollback()`: when the server accepts it, the open transaction is thrown away. -/
def rollback : Py σ ε Unit := fun env s =>
  match env.refuse s.tick "ROLLBACK" with
  | some (code, message) => .error (.database code message) { s with tick := s.tick + 1 }
  | none => .ok () { s with pending := s.committed, tick := s.tick + 1 }

/-- `conn.close()`: the server rolls back whatever was not committed. -/
def close : Py σ ε Unit := fun _ s => .ok () { s with pending := s.committed }

/-- `pymysql.connect(...)` to `host`: when the server accepts the attempt at this tick, a
fresh session starts with nothing pending. -/
def connect (host : String) : Py σ ε Unit := fun env s =>
  match env.refuse s.tick host with
  | some (code, message) => .error (.database code message) { s with tick := s.tick + 1 }
  | none => .ok () { s with pending := s.committed, tick := s.tick + 1 }

/-- `random.randbelow(bound)`: the random draw at this tick, reduced below `bound`. -/
def randBelow (bound : Nat) : Py σ ε Nat := fun env s =>
  .ok (env.draw s.tick % bound) { s with tick := s.tick + 1 }

/-- A log line, with the data of the step it reports. -/
def emit (entry : ε) : Py σ ε Unit := fun _ s => .ok () { s with log := s.log ++ [entry] }

@[simp] theorem run_tick (env : Env) (s : Sys σ ε) :
    (tick : Py σ ε Nat) env s = .ok s.tick { s with tick := s.tick + 1 } := rfl
@[simp] theorem run_now (env : Env) (s : Sys σ ε) : (now : Py σ ε Nat) env s = .ok s.tick s :=
  rfl
@[simp] theorem run_http (req : Request) (env : Env) (s : Sys σ ε) :
    (http req : Py σ ε Reply) env s = .ok (env.reply s.tick req) { s with tick := s.tick + 1 } :=
  rfl
@[simp] theorem run_close (env : Env) (s : Sys σ ε) :
    (close : Py σ ε Unit) env s = .ok () { s with pending := s.committed } := rfl
@[simp] theorem run_emit (entry : ε) (env : Env) (s : Sys σ ε) :
    (emit entry : Py σ ε Unit) env s = .ok () { s with log := s.log ++ [entry] } := rfl

theorem bind_ok {m : Py σ ε α} {k : α → Py σ ε β} {env : Env} {s t : Sys σ ε} {b : β}
    (h : (m >>= k) env s = .ok b t) : ∃ a s', m env s = .ok a s' ∧ k a env s' = .ok b t := by
  simp only [run_bind] at h
  split at h
  · exact ⟨_, _, ‹_›, h⟩
  all_goals cases h

theorem lift_ok {x : Except Exc α} {env : Env} {s t : Sys σ ε} {a : α}
    (h : (lift x : Py σ ε α) env s = .ok a t) : x = .ok a ∧ t = s := by
  cases x <;> simp only [lift, Res.ok.injEq, reduceCtorEq] at h
  exact ⟨congrArg Except.ok h.1, h.2.symm⟩

theorem execute_ok {table : String} {stmt : σ → Nat → σ × Nat × α} {env : Env}
    {s t : Sys σ ε} {a : α} (h : execute table stmt env s = .ok a t) :
    (t.pending, t.autoInc, a) = stmt s.pending s.autoInc ∧ t.committed = s.committed ∧
      t.log = s.log := by
  simp only [execute] at h
  split at h
  · cases h
  · cases h
    exact ⟨rfl, rfl, rfl⟩

theorem commit_ok {env : Env} {s t : Sys σ ε} (h : (commit : Py σ ε Unit) env s = .ok () t) :
    t.committed = s.pending ∧ t.pending = s.pending ∧ t.autoInc = s.autoInc ∧ t.log = s.log := by
  simp only [commit] at h
  split at h
  · cases h
  · cases h
    exact ⟨rfl, rfl, rfl, rfl⟩

theorem pure_ok {a b : α} {env : Env} {s t : Sys σ ε} (h : (pure a : Py σ ε α) env s = .ok b t) :
    b = a ∧ t = s := by
  simp only [run_pure, Res.ok.injEq] at h
  exact ⟨h.1.symm, h.2.symm⟩

theorem update_ok {table : String} {f : σ → σ} {env : Env} {s t : Sys σ ε}
    (h : (update table f : Py σ ε Unit) env s = .ok () t) :
    t.pending = f s.pending ∧ t.autoInc = s.autoInc ∧ t.committed = s.committed ∧ t.log = s.log := by
  obtain ⟨same, committed, log⟩ := execute_ok h
  simp only [Prod.mk.injEq] at same
  exact ⟨same.1, same.2.1, committed, log⟩

/-! ## Programs that keep a relation between the world they start and end in -/

/-- Every outcome of `m` ends in a world related to the start by `R`. -/
def Moves (R : Sys σ ε → Sys σ ε → Prop) (m : Py σ ε α) : Prop :=
  ∀ env s, R s (m env s).world

section Moves

variable {R : Sys σ ε → Sys σ ε → Prop}

theorem Moves.pure (refl : ∀ s, R s s) (a : α) : Moves R (pure a : Py σ ε α) :=
  fun _ s => refl s

theorem Moves.raise (refl : ∀ s, R s s) (e : Exc) : Moves R (raise e : Py σ ε α) :=
  fun _ s => refl s

theorem Moves.lift (refl : ∀ s, R s s) (x : Except Exc α) : Moves R (lift x : Py σ ε α) := by
  intro _ s
  cases x <;> exact refl s

theorem Moves.bind (trans : ∀ a b c, R a b → R b c → R a c) {m : Py σ ε α}
    {k : α → Py σ ε β} (hm : Moves R m) (hk : ∀ a, Moves R (k a)) : Moves R (m >>= k) := by
  intro env s
  have first := hm env s
  cases h : m env s with
  | ok a s' => simpa [h] using trans _ _ _ (by simpa [h] using first) (hk a env s')
  | error e s' => simpa [h] using first
  | diverge s' => simpa [h] using first

theorem Moves.tryExcept (trans : ∀ a b c, R a b → R b c → R a c) {handles : Exc → Bool}
    {m : Py σ ε α} {handler : Exc → Py σ ε α} (hm : Moves R m)
    (hh : ∀ e, Moves R (handler e)) : Moves R (tryExcept handles m handler) := by
  intro env s
  have first := hm env s
  cases h : m env s with
  | error e s' =>
    simp only [h, Res.world_error] at first
    by_cases caught : handles e
    · simpa [h, caught] using trans _ _ _ first (hh e env s')
    · simpa [h, caught] using first
  | ok a s' => simpa [h] using first
  | diverge s' => simpa [h] using first

theorem Moves.attempt (refl : ∀ s, R s s) (trans : ∀ a b c, R a b → R b c → R a c)
    {m : Py σ ε α} (hm : Moves R m) : Moves R (attempt m) :=
  Moves.tryExcept trans (Moves.bind trans hm fun _ => Moves.pure refl _) fun _ => Moves.pure refl _

theorem Moves.and {R' : Sys σ ε → Sys σ ε → Prop} {m : Py σ ε α} (hm : Moves R m)
    (hm' : Moves R' m) : Moves (fun s t => R s t ∧ R' s t) m :=
  fun env s => ⟨hm env s, hm' env s⟩

end Moves

/-- A program that leaves the database and the log alone, as a provider call does. -/
def Quiet (m : Py σ ε α) : Prop := Moves (fun s t => t.data = s.data) m

theorem Quiet.data_of_ok {m : Py σ ε α} (hq : Quiet m) {env : Env} {s t : Sys σ ε} {a : α}
    (h : m env s = .ok a t) : t.committed = s.committed ∧ t.pending = s.pending ∧
      t.autoInc = s.autoInc ∧ t.log = s.log := by
  simpa [h, Sys.data] using hq env s

theorem Quiet.pure (a : α) : Quiet (pure a : Py σ ε α) := fun _ _ => rfl
theorem Quiet.raise (e : Exc) : Quiet (raise e : Py σ ε α) := fun _ _ => rfl
theorem Quiet.lift (x : Except Exc α) : Quiet (lift x : Py σ ε α) := by
  intro _ _
  cases x <;> rfl
theorem Quiet.diverge : Quiet (diverge : Py σ ε α) := fun _ _ => rfl
theorem Quiet.env : Quiet (Py.env : Py σ ε Env) := fun _ _ => rfl
theorem Quiet.http (req : Request) : Quiet (http req : Py σ ε Reply) := fun _ _ => rfl
theorem Quiet.now : Quiet (now : Py σ ε Nat) := fun _ _ => rfl

theorem Quiet.bind {m : Py σ ε α} {k : α → Py σ ε β} (hm : Quiet m) (hk : ∀ a, Quiet (k a)) :
    Quiet (m >>= k) :=
  Moves.bind (fun _ _ _ h h' => h'.trans h) hm hk

theorem Quiet.tryExcept {handles : Exc → Bool} {m : Py σ ε α} {handler : Exc → Py σ ε α}
    (hm : Quiet m) (hh : ∀ e, Quiet (handler e)) : Quiet (tryExcept handles m handler) :=
  Moves.tryExcept (fun _ _ _ h h' => h'.trans h) hm hh

/-- The world `t` only adds to the open transaction of `s`: the store and the log are as
they were, and the AUTO_INCREMENT counter has not gone down. -/
def Staged (s t : Sys σ ε) : Prop :=
  t.committed = s.committed ∧ t.log = s.log ∧ s.autoInc ≤ t.autoInc

theorem Staged.refl (s : Sys σ ε) : Staged s s := ⟨rfl, rfl, le_refl _⟩

theorem Staged.trans {a b c : Sys σ ε} (h : Staged a b) (h' : Staged b c) : Staged a c :=
  ⟨h'.1.trans h.1, h'.2.1.trans h.2.1, h.2.2.trans h'.2.2⟩

/-- A program that commits nothing and logs nothing: its work stays in the open transaction,
and the AUTO_INCREMENT counter only grows. -/
def Staging (m : Py σ ε α) : Prop := Moves Staged m

theorem Staging.pure (a : α) : Staging (pure a : Py σ ε α) := fun _ _ => Staged.refl _
theorem Staging.raise (e : Exc) : Staging (raise e : Py σ ε α) := fun _ _ => Staged.refl _
theorem Staging.lift (x : Except Exc α) : Staging (lift x : Py σ ε α) :=
  Moves.lift Staged.refl x

theorem Staging.of_quiet {m : Py σ ε α} (hq : Quiet m) : Staging m := by
  intro env s
  have same := hq env s
  simp only [Sys.data, Prod.mk.injEq] at same
  exact ⟨same.1, same.2.2.2, same.2.2.1.ge⟩

theorem Staging.bind {m : Py σ ε α} {k : α → Py σ ε β} (hm : Staging m)
    (hk : ∀ a, Staging (k a)) : Staging (m >>= k) :=
  Moves.bind (fun _ _ _ h h' => h.trans h') hm hk

theorem Staging.tryExcept {handles : Exc → Bool} {m : Py σ ε α} {handler : Exc → Py σ ε α}
    (hm : Staging m) (hh : ∀ e, Staging (handler e)) : Staging (tryExcept handles m handler) :=
  Moves.tryExcept (fun _ _ _ h h' => h.trans h') hm hh

theorem Staging.ite {c : Prop} [Decidable c] {m m' : Py σ ε α} (hm : Staging m)
    (hm' : Staging m') : Staging (if c then m else m') := by
  split <;> assumption

theorem Staging.execute {table : String} {stmt : σ → Nat → σ × Nat × α}
    (grows : ∀ st n, n ≤ (stmt st n).2.1) : Staging (execute table stmt : Py σ ε α) := by
  intro env s
  dsimp only [Py.execute]
  split
  · exact Staged.refl _
  · exact ⟨rfl, rfl, grows _ _⟩

theorem Staging.update (table : String) (f : σ → σ) : Staging (update table f : Py σ ε Unit) :=
  Staging.execute fun _ _ => le_refl _

theorem Staging.rollback : Staging (rollback : Py σ ε Unit) := by
  intro env s
  dsimp only [Py.rollback]
  split <;> exact Staged.refl _

theorem Staging.env : Staging (Py.env : Py σ ε Env) := Staging.of_quiet Quiet.env

/-- A program that writes nothing to the log. -/
def Silent (m : Py σ ε α) : Prop := Moves (fun s t => t.log = s.log) m

theorem Silent.of_staging {m : Py σ ε α} (hm : Staging m) : Silent m := fun env s => (hm env s).2.1

theorem Silent.bind {m : Py σ ε α} {k : α → Py σ ε β} (hm : Silent m) (hk : ∀ a, Silent (k a)) :
    Silent (m >>= k) :=
  Moves.bind (fun _ _ _ h h' => h'.trans h) hm hk

theorem Silent.commit : Silent (commit : Py σ ε Unit) := by
  intro env s
  dsimp only [Py.commit]
  split <;> rfl

/-- Both stores of `t` extend `base` by `ext` whenever both stores of `s` do. -/
def Extends (ext : σ → σ → Prop) (s t : Sys σ ε) : Prop :=
  ∀ base, ext base s.committed → ext base s.pending → ext base t.committed ∧ ext base t.pending

/-- A program under which both stores of the world go on extending a base by `ext` when they
did at the start: no statement, commit or rollback of it breaks `ext`. -/
def Keeps (ext : σ → σ → Prop) (m : Py σ ε α) : Prop := Moves (Extends ext) m

section Keeps

variable {ext : σ → σ → Prop}

theorem Extends.of_data {s t : Sys σ ε} (same : t.data = s.data) : Extends ext s t := by
  intro base committed pending
  simp only [Sys.data, Prod.mk.injEq] at same
  exact ⟨same.1 ▸ committed, same.2.1 ▸ pending⟩

theorem Extends.trans {a b c : Sys σ ε} (h : Extends ext a b) (h' : Extends ext b c) :
    Extends ext a c :=
  fun base committed pending => h' base (h base committed pending).1 (h base committed pending).2

/-- A statement keeps `ext` when `ext` is transitive and the statement extends every store it
is run on. -/
theorem Keeps.execute (trans : ∀ a b c, ext a b → ext b c → ext a c) {table : String}
    {stmt : σ → Nat → σ × Nat × α} (extends_ : ∀ st n, ext st (stmt st n).1) :
    Keeps ext (execute table stmt : Py σ ε α) := by
  intro env s base committed pending
  dsimp only [Py.execute]
  split
  · exact ⟨committed, pending⟩
  · exact ⟨committed, trans _ _ _ pending (extends_ _ _)⟩

theorem Keeps.commit : Keeps ext (commit : Py σ ε Unit) := by
  intro env s base committed pending
  dsimp only [Py.commit]
  split
  · exact ⟨committed, pending⟩
  · exact ⟨pending, pending⟩

end Keeps

/-! ## Programs that are never cut off -/

/-- Every run of `m` in `env` returns or raises: none is cut off. -/
def Ends (env : Env) (m : Py σ ε α) : Prop := ∀ s t, m env s ≠ .diverge t

section Ends

variable {world : Env}

theorem Ends.pure (a : α) : Ends world (pure a : Py σ ε α) := fun _ _ => nofun
theorem Ends.raise (e : Exc) : Ends world (raise e : Py σ ε α) := fun _ _ => nofun
theorem Ends.lift (x : Except Exc α) : Ends world (lift x : Py σ ε α) := fun _ _ => by
  cases x <;> nofun
theorem Ends.env : Ends world (Py.env : Py σ ε Env) := fun _ _ => nofun
theorem Ends.now : Ends world (now : Py σ ε Nat) := fun _ _ => nofun
theorem Ends.http (req : Request) : Ends world (http req : Py σ ε Reply) := fun _ _ => nofun
theorem Ends.close : Ends world (close : Py σ ε Unit) := fun _ _ => nofun
theorem Ends.emit (entry : ε) : Ends world (emit entry : Py σ ε Unit) := fun _ _ => nofun
theorem Ends.randBelow (bound : Nat) : Ends world (randBelow bound : Py σ ε Nat) := fun _ _ => nofun

theorem Ends.execute {table : String} {stmt : σ → Nat → σ × Nat × α} :
    Ends world (execute table stmt : Py σ ε α) := fun s _ => by
  unfold Py.execute
  split <;> nofun

theorem Ends.commit : Ends world (commit : Py σ ε Unit) := fun s _ => by
  unfold Py.commit
  split <;> nofun

theorem Ends.rollback : Ends world (rollback : Py σ ε Unit) := fun s _ => by
  unfold Py.rollback
  split <;> nofun

theorem Ends.connect (host : String) : Ends world (connect host : Py σ ε Unit) := fun s _ => by
  unfold Py.connect
  split <;> nofun

theorem Ends.bind {m : Py σ ε α} {k : α → Py σ ε β} (hm : Ends world m) (hk : ∀ a, Ends world (k a)) :
    Ends world (m >>= k) := fun s t => by
  simp only [run_bind]
  cases h : m world s with
  | ok a s' => exact hk a s' t
  | error e s' => nofun
  | diverge s' => exact absurd h (hm s s')

theorem Ends.tryExcept {handles : Exc → Bool} {m : Py σ ε α} {handler : Exc → Py σ ε α}
    (hm : Ends world m) (hh : ∀ e, Ends world (handler e)) :
    Ends world (tryExcept handles m handler) := fun s t => by
  simp only [run_tryExcept]
  cases h : m world s with
  | ok a s' => nofun
  | error e s' =>
    dsimp only
    split
    · exact hh e s' t
    · nofun
  | diverge s' => exact absurd h (hm s s')

theorem Ends.attempt {m : Py σ ε α} (hm : Ends world m) : Ends world (attempt m) := fun s t => by
  rw [run_attempt]
  cases h : m world s with
  | ok a s' => nofun
  | error e s' => nofun
  | diverge s' => exact absurd h (hm s s')

theorem Ends.tryFinally {m : Py σ ε α} {cleanup : Py σ ε Unit} (hm : Ends world m)
    (hc : Ends world cleanup) : Ends world (tryFinally m cleanup) := fun s t => by
  unfold Py.tryFinally
  cases h : m world s with
  | ok a s' =>
    dsimp only
    cases h' : cleanup world s' with
    | ok _ _ => nofun
    | error _ _ => nofun
    | diverge s'' => exact absurd h' (hc s' s'')
  | error e s' =>
    dsimp only
    cases h' : cleanup world s' with
    | ok _ _ => nofun
    | error _ _ => nofun
    | diverge s'' => exact absurd h' (hc s' s'')
  | diverge s' => exact absurd h (hm s s')

end Ends

end Py

end CloudflareSync
