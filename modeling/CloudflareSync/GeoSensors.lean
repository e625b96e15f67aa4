import Mathlib.Algebra.BigOperators.Group.List
import Mathlib.Algebra.Order.Ring.Nat
import CloudflareSync.Value

/-!
# The geo sensors: what a cycle learns

`geosensors/sensor.py` and `geosensors/sensor-api.py` learn, from one location, the addresses
Cloudflare's proxies answer with for every proxied record: a cycle lists the zones, lists each
zone's proxied `A`, `AAAA` and `CNAME` records, resolves each record through public resolvers
with `resolve_record` (the same method in both scripts), and keeps the addresses of the records
that resolve. This module holds what the two sensors share: the resolver (`resolveAddresses`),
the counters of a cycle, and what a cycle learns (`learned`).

The outside world is given as functions: the resolver's answer to one query, and, in the
sensors' modules, the database's answer to each statement and the API's response to each
request. A sensor's run is the pair of what it did to the outside world, which stays done when
the run then raises, and the Python result of `run_sync` (`SyncRun`).

Both cycles are folds that add one record's effect to the counters at a time (`Cycle.add`), so
each is described once by the total of its records' effects: over one loop (`Cycle.foldl_add`),
over the record loops of the zone loop (`Cycle.foldl_foldl_add`), and over a loop that may raise
(`Cycle.foldlM_add`).
-/

set_option autoImplicit false

namespace CloudflareSync

/-! ## Resolving a proxied record -/

section Resolve

variable (resolve : String → String → Option (List String))

/-- The body of `resolve_record`, the same in both sensors. `resolve name rdtype` is
`self.resolver.resolve(name, rdtype)`: the text of each answer's rdata (for a `CNAME`, its
target), or `none` when it raises. Every exception is caught, so a record that does not resolve
gives no address. A `CNAME` is followed to its first target, whose `A` answers are taken, or its
`AAAA` answers when the `A` query raises. -/
def resolveAddresses (recordName recordType : String) : List String :=
  let name := if recordName.toList.getLast? = some '.' then recordName else recordName ++ "."
  if recordType = "A" then (resolve name "A").getD []
  else if recordType = "AAAA" then (resolve name "AAAA").getD []
  else if recordType = "CNAME" then
    match resolve name "CNAME" with
    | some (target :: _) =>
      match resolve target "A" with
      | some ips => ips
      | none => (resolve target "AAAA").getD []
    | _ => []
  else []

end Resolve

/-! ## Counting a cycle -/

/-- The counters `run_sync` returns. -/
structure SyncStats where
  zones : Nat
  records : Nat
  ipsLearned : Nat
  errors : Nat
  deriving DecidableEq, Repr

/-- The counters of a cycle and what it has put out so far: the writes the MySQL sensor has
committed, or the results the API sensor has collected. -/
structure Cycle (α : Type) where
  stats : SyncStats
  out : List α
  deriving DecidableEq, Repr

/-- What a run of `run_sync` did: its output to the outside world, kept whatever the result. -/
structure SyncRun (α : Type) where
  out : List α
  result : Except Exc SyncStats

namespace Cycle

variable {α β : Type}

/-- The effect `d` counted after `c`: counters add up, outputs follow each other. -/
def add (c d : Cycle α) : Cycle α :=
  ⟨⟨c.stats.zones + d.stats.zones, c.stats.records + d.stats.records,
    c.stats.ipsLearned + d.stats.ipsLearned, c.stats.errors + d.stats.errors⟩, c.out ++ d.out⟩

/-- What a list of effects adds up to. -/
def total (effects : List (Cycle α)) : Cycle α :=
  ⟨⟨(effects.map (·.stats.zones)).sum, (effects.map (·.stats.records)).sum,
    (effects.map (·.stats.ipsLearned)).sum, (effects.map (·.stats.errors)).sum⟩,
    effects.flatMap (·.out)⟩

theorem add_total_nil (c : Cycle α) : c.add (total []) = c := by
  simp only [add, total, List.map_nil, List.sum_nil, Nat.add_zero, List.flatMap_nil, List.append_nil]

theorem add_total_cons (c e : Cycle α) (es : List (Cycle α)) :
    (c.add e).add (total es) = c.add (total (e :: es)) := by
  simp only [add, total, List.map_cons, List.sum_cons, List.flatMap_cons, Nat.add_assoc,
    List.append_assoc]

theorem add_total_append (c : Cycle α) (es fs : List (Cycle α)) :
    (c.add (total es)).add (total fs) = c.add (total (es ++ fs)) := by
  simp only [add, total, List.map_append, List.sum_append, List.flatMap_append, Nat.add_assoc,
    List.append_assoc]

/-- **Run lemma.** A loop whose every step adds its item's effect adds their total. -/
theorem foldl_add (step : Cycle α → β → Cycle α) (effect : β → Cycle α)
    (adds : ∀ c x, step c x = c.add (effect x)) :
    ∀ (xs : List β) (c : Cycle α), xs.foldl step c = c.add (total (xs.map effect))
  | [], c => (add_total_nil c).symm
  | x :: xs, c => by
    rw [List.foldl_cons, foldl_add step effect adds xs, adds, add_total_cons]
    rfl

theorem total_cons (e : Cycle α) (es : List (Cycle α)) : total (e :: es) = e.add (total es) := rfl

/-- The run lemma of a loop over the items of each of a list of groups. -/
theorem foldl_foldl_add {γ : Type} (step : γ → Cycle α → β → Cycle α) (effect : γ → β → Cycle α)
    (adds : ∀ g c x, step g c x = c.add (effect g x)) (items : γ → List β) :
    ∀ (groups : List γ) (c : Cycle α),
      groups.foldl (fun c g => (items g).foldl (step g) c) c =
        c.add (total (groups.flatMap fun g => (items g).map (effect g)))
  | [], c => (add_total_nil c).symm
  | g :: groups, c => by
    rw [List.foldl_cons, foldl_add (step g) (effect g) (adds g),
      foldl_foldl_add step effect adds items groups, add_total_append, List.flatMap_cons]

theorem total_append (es fs : List (Cycle α)) : total (es ++ fs) = (total es).add (total fs) := by
  simp only [add, total, List.map_append, List.sum_append, List.flatMap_append]

theorem total_map_total {γ : Type} (effects : γ → List (Cycle α)) :
    ∀ groups : List γ, total (groups.map fun g => total (effects g)) = total (groups.flatMap effects)
  | [] => rfl
  | g :: groups => by
    rw [List.map_cons, total_cons, total_map_total effects groups, List.flatMap_cons, total_append]

/-- The run lemma of a loop that may raise, on items at which no step raises. -/
theorem foldlM_add {ε : Type} (step : Cycle α → β → Except ε (Cycle α)) (effect : β → Cycle α) :
    ∀ (xs : List β), (∀ c, ∀ x ∈ xs, step c x = .ok (c.add (effect x))) →
      ∀ c, xs.foldlM step c = .ok (c.add (total (xs.map effect)))
  | [], _, c => congrArg Except.ok (add_total_nil c).symm
  | x :: xs, adds, c => by
    rw [List.foldlM_cons, adds c x (.head _)]
    show xs.foldlM step (c.add (effect x)) = _
    rw [foldlM_add step effect xs (fun c y member => adds c y (.tail _ member)), add_total_cons]
    rfl

end Cycle

/-- Every item of a loop in `Except` that returns was stepped over without raising. -/
theorem foldlM_ok_step {ε σ β : Type} {step : σ → β → Except ε σ} :
    ∀ {xs : List β} {c d : σ}, xs.foldlM step c = .ok d → ∀ x ∈ xs, ∃ c' d', step c' x = .ok d'
  | [], _, _, _ => by simp
  | x :: xs, c, _, done => by
    rw [List.foldlM_cons] at done
    obtain ⟨c', first, rest⟩ := bind_eq_ok done
    intro y member
    rcases List.mem_cons.mp member with rfl | member
    · exact ⟨c, c', first⟩
    · exact foldlM_ok_step rest y member

/-! ## What a cycle learns -/

/-- The columns of a `cloudflare_records` row that `run_sync` reads. -/
structure RecordRow where
  recordId : String
  recordName : String
  recordType : String
  ttl : Int
  deriving DecidableEq, Repr

/-- The records a cycle learns addresses for, in the order it visits them: each visited record
(with the id of its zone) whose name resolves, with the addresses it resolves to. -/
def learned (resolve : String → String → Option (List String))
    (visits : List (String × RecordRow)) : List (String × RecordRow × List String) :=
  visits.filterMap fun visit =>
    let ips := resolveAddresses resolve visit.2.recordName visit.2.recordType
    if ips = [] then none else some (visit.1, visit.2, ips)

theorem learned_cons (resolve : String → String → Option (List String))
    (visit : String × RecordRow) (rest : List (String × RecordRow)) :
    learned resolve (visit :: rest) =
      if resolveAddresses resolve visit.2.recordName visit.2.recordType = [] then
        learned resolve rest
      else (visit.1, visit.2, resolveAddresses resolve visit.2.recordName visit.2.recordType) ::
        learned resolve rest := by
  unfold learned
  rw [List.filterMap_cons]
  split <;> simp_all

/-- The visits of a listing of zones with their records: each record of each zone, in order,
with the zone's id. -/
def visitsOf (zones : List (String × List RecordRow)) : List (String × RecordRow) :=
  zones.flatMap fun zone => zone.2.map (zone.1, ·)

end CloudflareSync
