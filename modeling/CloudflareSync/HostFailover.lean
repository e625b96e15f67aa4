import CloudflareSync.Config
import Mathlib.Data.List.Rotate

/-!
# Host failover in `DatabaseConnectionManager.connect`

`connect` asks `ordered_hosts` for an order of the configured hosts and then tries them one
after another, one connection attempt per host, until the server accepts one. The random
draws come from the environment, so a single statement about every environment covers every
rotation start and every shuffle the source can pick.

`orderedHosts_run` says what the order is: the configured list itself unless the policy is a
round-robin or least-used alias, a rotation of it under the round-robin aliases, and a
permutation of it always (the shuffle swaps two in-bounds entries at each step, `swapAt_perm`).
`connectLoop_attempted` says how the loop ends over any order and any pattern of refusals:
with the first host the server accepts, after one attempt per host before it, or with
`ConfigError` after every host was attempted and refused. `connect_attempts` puts the two
together.
-/

set_option autoImplicit false

namespace CloudflareSync

/-! ## The order of the hosts -/

/-- Taking out entry `k` and putting `y` in its place is a permutation of putting `y` in
front. -/
theorem cons_set_perm {α : Type} (y : α) :
    ∀ (xs : List α) (k : Nat) (hk : k < xs.length), (xs[k] :: xs.set k y).Perm (y :: xs)
  | [], _, hk => absurd hk (Nat.not_lt_zero _)
  | x :: xs, 0, _ => List.Perm.swap y x xs
  | x :: xs, k + 1, hk => by
    have bound : k < xs.length := Nat.lt_of_succ_lt_succ hk
    have rest := cons_set_perm y xs k bound
    simp only [List.getElem_cons_succ, List.set_cons_succ]
    exact (List.Perm.swap x xs[k] _).trans ((rest.cons x).trans (List.Perm.swap y x xs))

/-- Swapping two in-bounds entries is a permutation. -/
theorem set_set_perm {α : Type} :
    ∀ (xs : List α) (i j : Nat) (hi : i < xs.length) (hj : j < xs.length),
      ((xs.set i xs[j]).set j xs[i]).Perm xs
  | [], _, _, hi, _ => absurd hi (Nat.not_lt_zero _)
  | x :: xs, 0, 0, _, _ => by simp
  | x :: xs, 0, j + 1, _, hj => by
    simpa using cons_set_perm x xs j (Nat.lt_of_succ_lt_succ hj)
  | x :: xs, i + 1, 0, hi, _ => by
    simpa using cons_set_perm x xs i (Nat.lt_of_succ_lt_succ hi)
  | x :: xs, i + 1, j + 1, hi, hj => by
    simpa using (set_set_perm xs i j (Nat.lt_of_succ_lt_succ hi) (Nat.lt_of_succ_lt_succ hj)).cons x

theorem swapAt_perm {α : Type} (xs : List α) (i j : Nat) : (swapAt xs i j).Perm xs := by
  unfold swapAt
  split
  · rename_i a b first second
    obtain ⟨hi, rfl⟩ := List.getElem?_eq_some_iff.mp (List.get?_eq_getElem? xs i ▸ first)
    obtain ⟨hj, rfl⟩ := List.getElem?_eq_some_iff.mp (List.get?_eq_getElem? xs j ▸ second)
    exact set_set_perm xs i j hi hj
  · exact List.Perm.refl xs

section Draws

variable {σ ε : Type}

/-- `random.shuffle` draws once per step and returns a permutation of its list. -/
theorem shuffleFrom_run {α : Type} (env : Env) :
    ∀ (i : Nat) (xs : List α) (s : Sys σ ε),
      ∃ ys, shuffleFrom i xs env s = .ok ys { s with tick := s.tick + i } ∧ ys.Perm xs
  | 0, xs, s => ⟨xs, rfl, List.Perm.refl xs⟩
  | i + 1, xs, s => by
    obtain ⟨ys, run, perm⟩ := shuffleFrom_run env i (swapAt xs (i + 1) (env.draw s.tick % (i + 2)))
      { s with tick := s.tick + 1 }
    refine ⟨ys, ?_, perm.trans (swapAt_perm _ _ _)⟩
    simp only [shuffleFrom, Py.run_bind, Py.randBelow, run]
    congr 2
    omega

/-- **The order `ordered_hosts` returns**: a permutation of the configured hosts, a rotation
of them under a round-robin policy, and the configured list itself under any policy that is
neither round-robin nor least-used. Only the random draws move the world. -/
theorem orderedHosts_run (config : DatabaseConfig) (env : Env) (s : Sys σ ε) :
    ∃ order draws, config.orderedHosts env s = .ok order { s with tick := s.tick + draws } ∧
      order.Perm config.hosts ∧
      (["round-robin", "roundrobin", "rr"].contains config.policy = true →
        ∃ k, order = config.hosts.rotate k) ∧
      (["round-robin", "roundrobin", "rr", "least-used", "least_used", "least"].contains
        config.policy = false → order = config.hosts) := by
  unfold DatabaseConfig.orderedHosts
  by_cases robin : config.policy = "round-robin" ∨ config.policy = "roundrobin" ∨
      config.policy = "rr"
  · by_cases empty : config.hosts = []
    · refine ⟨[], 0, ?_, by simp [empty], fun _ => ⟨0, by simp [empty]⟩, fun _ => empty.symm⟩
      split <;> simp_all [shuffle, shuffleFrom]
    · have start : env.draw s.tick % config.hosts.length ≤ config.hosts.length :=
        Nat.le_of_lt (Nat.mod_lt _ (List.length_pos.mpr empty))
      refine ⟨config.hosts.rotate (env.draw s.tick % config.hosts.length), 1, ?_,
        List.rotate_perm _ _, fun _ => ⟨_, rfl⟩, fun other => ?_⟩
      · simp [robin, empty, Py.randBelow, List.rotate_eq_drop_append_take start]
      · rcases robin with named | named | named <;> simp [named] at other
  · by_cases least : config.policy = "least-used" ∨ config.policy = "least_used" ∨
        config.policy = "least"
    · obtain ⟨ys, run, perm⟩ := shuffleFrom_run env (config.hosts.length - 1) config.hosts s
      exact ⟨ys, config.hosts.length - 1, by simp [robin, least, shuffle, run], perm,
        fun chosen => absurd (by simpa using chosen) robin, fun other => by simp [least] at other⟩
    · exact ⟨config.hosts, 0, by simp [robin, least], List.Perm.refl _,
        fun chosen => absurd (by simpa using chosen) robin, fun _ => rfl⟩

/-! ## The connection loop -/

/-- The target of a connection attempt to `host`: `host:port`. -/
def hostTarget (host : Host) : String := s!"{host.1}:{host.2}"

/-- Whether the server refuses every attempt on `hosts`, made one per tick from `tick`. -/
def refusesAll (env : Env) : Nat → List Host → Bool
  | _, [] => true
  | tick, host :: rest =>
    (env.refuse tick (hostTarget host)).isSome && refusesAll env (tick + 1) rest

/-- How the connection loop over `order` may end, with its first attempt at the tick of `s`:
with a host `host` the server accepted after refusing every host before it in `order`, one
attempt per tick, and with a fresh session; or with `ConfigError` once the server refused
every host of `order`. The loop is never cut off. -/
def FailoverEnds (env : Env) (order : List Host) (s : Sys σ ε) : Res (Sys σ ε) Host → Prop
  | .ok host t => ∃ failed rest, order = failed ++ host :: rest ∧
      refusesAll env s.tick failed = true ∧
      env.refuse (s.tick + failed.length) (hostTarget host) = none ∧
      t = { s with pending := s.committed, tick := s.tick + failed.length + 1 }
  | .error e t => e.isConfig = true ∧ refusesAll env s.tick order = true ∧
      t = { s with tick := s.tick + order.length }
  | .diverge _ => False

/-- **The connection loop tries the hosts in order until the first one the server accepts.** -/
theorem connectLoop_attempted (env : Env) :
    ∀ (order : List Host) (lastError : Option Exc) (s : Sys σ ε),
      FailoverEnds env order s (DatabaseConfig.connectLoop order lastError env s)
  | [], _, s => ⟨rfl, rfl, by simp⟩
  | host :: rest, _, s => by
    simp only [DatabaseConfig.connectLoop, Py.run_tryExcept, Py.run_bind, Py.connect]
    cases refused : env.refuse s.tick s!"{host.1}:{host.2}" with
    | none => exact ⟨[], rest, rfl, rfl, refused, by simp⟩
    | some err =>
      have next := connectLoop_attempted env rest (some (.database err.1 err.2))
        { s with tick := s.tick + 1 }
      have first : (env.refuse s.tick (hostTarget host)).isSome = true := by
        simp [hostTarget, refused]
      simp only [if_true]
      revert next
      cases DatabaseConfig.connectLoop rest _ env { s with tick := s.tick + 1 } with
      | ok h t =>
        rintro ⟨failed, after, rfl, refusals, accepted, rfl⟩
        refine ⟨host :: failed, after, rfl, by simp [refusesAll, first, refusals], ?_, ?_⟩
        · simpa [Nat.add_assoc, Nat.add_comm 1] using accepted
        · simp only [List.length_cons]
          congr 1
          omega
      | error e t =>
        rintro ⟨config, refusals, rfl⟩
        refine ⟨config, by simp [refusesAll, first, refusals], ?_⟩
        simp only [List.length_cons]
        congr 1
        omega
      | diverge t => exact id

/-- **`connect` tries the hosts in an order that permutes the configured list**: the list
itself unless the policy is a round-robin or least-used alias, a rotation of it under a
round-robin alias. Each host of the order is attempted once, at most, at consecutive ticks
after the random draws; `connect` returns the first host the server accepts, and raises
`ConfigError` only after every host was refused. -/
theorem connect_attempts (config : DatabaseConfig) (env : Env) (s : Sys σ ε) :
    ∃ order draws, order.Perm config.hosts ∧
      (["round-robin", "roundrobin", "rr"].contains config.policy = true →
        ∃ k, order = config.hosts.rotate k) ∧
      (["round-robin", "roundrobin", "rr", "least-used", "least_used", "least"].contains
        config.policy = false → order = config.hosts) ∧
      FailoverEnds env order { s with tick := s.tick + draws } (config.connect env s) := by
  obtain ⟨order, draws, run, perm, robin, plain⟩ := orderedHosts_run config env s
  refine ⟨order, draws, perm, robin, plain, ?_⟩
  simp only [DatabaseConfig.connect, Py.run_bind, run]
  exact connectLoop_attempted env order none _

end Draws

end CloudflareSync
