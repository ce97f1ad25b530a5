import LoraCloud.Runs
import Mathlib.Data.List.Nodup

/-!
# Interleaved buffer updates

Calls for one device may run at the same time, and nothing orders their buffer updates. Here
each call's update is two atomic steps on the shared store, the read half and the write half
of `updateGeolocBuffer`, and the steps of any number of calls interleave freely with each other
and with expiries. Call `k` carries uplink `ev k`; a failed read or write ends the call.

`interleaving_only_drops`: at every point of every interleaving, each entry of the store is a
list of frames of distinct calls of its device, each with at least 3 receptions, in the order
in which those calls wrote. A stale write can drop frames that other calls wrote in the
meantime (`interleaving_lost_update`), but it never repeats, reorders or mixes them.
-/

namespace LoraCloud.Interleaving

/-- Where one call is in its buffer update. -/
inductive Phase where
  | idle
  | read (geolocBuffer : List Frame)
  | done
  deriving DecidableEq

/-- The shared store, and the phase of every call. -/
structure State where
  store : Store
  phase : Nat → Phase

/-- One step: call `k` reads, or writes, with the store answering as `faults` says; or the
buffer of device `d` expires. -/
inductive Label where
  | read (k : Nat) (faults : StoreFaults)
  | write (k : Nat) (faults : StoreFaults)
  | expire (d : EUI64)

def State.init : State := ⟨Store.empty, fun _ => .idle⟩

def State.setPhase (s : State) (k : Nat) (p : Phase) : State :=
  { s with phase := fun j => if j = k then p else s.phase j }

section Steps

variable (i : Integration) (ev : Nat → UplinkEvent)

/-- The device whose buffer call `k` updates. -/
def callKey (k : Nat) : EUI64 := Bytes.copy (ev k).devEui

def next (s : State) : Label → Option State
  | .read k f =>
    match s.phase k with
    | .idle =>
      match readGeolocBuffer i f s.store (callKey ev k) with
      | .ok buf => some (s.setPhase k (.read buf))
      | .error _ => some (s.setPhase k .done)
    | _ => none
  | .write k f =>
    match s.phase k with
    | .read buf =>
      match writeGeolocBuffer i f s.store (callKey ev k) buf (ev k) with
      | .ok (s', _) => some { s.setPhase k .done with store := s' }
      | .error _ => some (s.setPhase k .done)
    | _ => none
  | .expire d => some { s with store := s.store.erase d }

/-- Run the steps of a list in order; `none` when one of them cannot be taken. -/
def run : State → List Label → Option State
  | s, [] => some s
  | s, l :: ls => (next i ev s l).bind (run · ls)

end Steps

/-- The calls in the order in which they wrote. -/
def writeOrder (ls : List Label) : List Nat :=
  ls.filterMap fun
    | .write k _ => some k
    | _ => none

-- ---------------------------------------------------------------------------
-- The invariant
-- ---------------------------------------------------------------------------

variable {i : Integration} {ev : Nat → UplinkEvent}

theorem run_append (s : State) (l₁ l₂ : List Label) :
    run i ev s (l₁ ++ l₂) = (run i ev s l₁).bind (run i ev · l₂) := by
  induction l₁ generalizing s with
  | nil => rfl
  | cons l ls ih =>
    simp only [List.cons_append, run]
    cases next i ev s l with
    | none => rfl
    | some s₁ => exact ih s₁

/-- `ks` lists calls of device `d`, each with at least 3 receptions, in the write order `wo`. -/
def Tagged (ev : Nat → UplinkEvent) (d : EUI64) (wo ks : List Nat) : Prop :=
  ks.Sublist wo ∧ ∀ k ∈ ks, callKey ev k = d ∧ 3 ≤ (ev k).rxInfo.length

theorem Tagged.append {d : EUI64} {wo ks : List Nat} (h : Tagged ev d wo ks) (extra : List Nat) :
    Tagged ev d (wo ++ extra) ks :=
  ⟨h.1.trans (List.sublist_append_left wo extra), h.2⟩

/-- Every entry, and every buffer a call has read, is the frames of calls tagged for it in the
write order `wo`; the calls in `wo` are done, and each wrote once. -/
structure Inv (ev : Nat → UplinkEvent) (wo : List Nat) (s : State) : Prop where
  store : ∀ d, ∃ ks, Tagged ev d wo ks ∧ s.store d = nonemptyEntry (ks.map fun k => (ev k).rxInfo)
  read : ∀ k buf, s.phase k = .read buf →
    ∃ ks, Tagged ev (callKey ev k) wo ks ∧ buf = ks.map fun k => (ev k).rxInfo
  done : ∀ k ∈ wo, s.phase k = .done
  nodup : wo.Nodup

theorem inv_init : Inv ev [] State.init :=
  ⟨fun _ => ⟨[], ⟨List.Sublist.slnil, by simp⟩, rfl⟩, (fun _ _ h => nomatch h), by simp,
    List.nodup_nil⟩

theorem Inv.setPhase_done {wo : List Nat} {s : State} {k : Nat} (hi : Inv ev wo s)
    (hk : s.phase k ≠ .done) (p : Phase) : ∀ j ∈ wo, (s.setPhase k p).phase j = .done := by
  intro j hj
  have hjk : j ≠ k := fun h => hk (h ▸ hi.done j hj)
  simp [State.setPhase, hjk, hi.done j hj]

theorem Inv.read_setPhase {wo : List Nat} {s : State} {k j : Nat} {p : Phase} {b : List Frame}
    (hi : Inv ev wo s) (hjk : j ≠ k) (hj : (s.setPhase k p).phase j = .read b) :
    ∃ ks, Tagged ev (callKey ev j) wo ks ∧ b = ks.map fun k => (ev k).rxInfo := by
  simp only [State.setPhase, hjk, if_false] at hj
  exact hi.read j b hj

theorem Inv.setPhase {wo : List Nat} {s : State} {k : Nat} {p : Phase} (hi : Inv ev wo s)
    (hk : s.phase k ≠ .done) (hp : ∀ b, p = .read b →
      ∃ ks, Tagged ev (callKey ev k) wo ks ∧ b = ks.map fun k => (ev k).rxInfo) :
    Inv ev wo (s.setPhase k p) := by
  refine ⟨hi.store, fun j b hj => ?_, hi.setPhase_done hk p, hi.nodup⟩
  by_cases hjk : j = k
  · subst hjk
    simp only [State.setPhase, if_true] at hj
    exact hp b hj
  · exact hi.read_setPhase hjk hj

theorem next_read_inv {wo : List Nat} {s s' : State} {k : Nat} {f : StoreFaults}
    (hi : Inv ev wo s) (h : next i ev s (.read k f) = some s') : Inv ev wo s' := by
  simp only [next] at h
  split at h
  · rename_i hidle
    have hk : s.phase k ≠ .done := by rw [hidle]; exact nofun
    split at h <;> obtain rfl := Option.some.inj h
    · rename_i buf hbuf
      refine hi.setPhase hk fun b hb => ?_
      obtain rfl := Phase.read.inj hb
      rcases readGeolocBuffer_ok hbuf with rfl | rfl
      · exact ⟨[], ⟨List.nil_sublist _, by simp⟩, rfl⟩
      · obtain ⟨ks, hks, hst⟩ := hi.store (callKey ev k)
        exact ⟨ks, hks, by rw [hst, nonemptyEntry_getD]⟩
    · exact hi.setPhase hk nofun
  · exact nomatch h

theorem Inv.finish {wo : List Nat} {s : State} {k : Nat} {buf : List Frame} (hi : Inv ev wo s)
    (hread : s.phase k = .read buf) : Inv ev (wo ++ [k]) (s.setPhase k .done) := by
  have hk : s.phase k ≠ .done := by rw [hread]; exact nofun
  refine ⟨fun d => ?_, fun j b hj => ?_, fun j hj => ?_, ?_⟩
  · obtain ⟨ks, hks, hst⟩ := hi.store d
    exact ⟨ks, hks.append _, hst⟩
  · by_cases hjk : j = k
    · simp [State.setPhase, hjk] at hj
    · obtain ⟨ks, hks, rfl⟩ := hi.read_setPhase hjk hj
      exact ⟨ks, hks.append _, rfl⟩
  · rcases List.mem_append.mp hj with hj | hj
    · exact hi.setPhase_done hk _ j hj
    · simp [State.setPhase, List.mem_singleton.mp hj]
  · exact hi.nodup.append (List.nodup_singleton k)
      (List.disjoint_singleton.mpr fun hk' => hk (hi.done k hk'))

theorem Inv.written {wo : List Nat} {s : State} {k : Nat} {buf : List Frame} (hi : Inv ev wo s)
    (hread : s.phase k = .read buf) : ∃ ks, Tagged ev (callKey ev k) (wo ++ [k]) ks ∧
      appendRxInfo buf (ev k) = ks.map fun k => (ev k).rxInfo := by
  obtain ⟨ks, hks, rfl⟩ := hi.read k buf hread
  unfold appendRxInfo
  split_ifs with h3
  · refine ⟨ks ++ [k], ⟨hks.1.append (List.Sublist.refl [k]), fun j hj => ?_⟩, by simp⟩
    rcases List.mem_append.mp hj with hj | hj
    · exact hks.2 j hj
    · obtain rfl := List.mem_singleton.mp hj
      exact ⟨rfl, h3⟩
  · exact ⟨ks, hks.append _, rfl⟩

theorem next_write_inv {wo : List Nat} {s s' : State} {k : Nat} {f : StoreFaults}
    (hi : Inv ev wo s) (h : next i ev s (.write k f) = some s') : Inv ev (wo ++ [k]) s' := by
  simp only [next] at h
  split at h
  · rename_i buf hread
    have hfin := hi.finish hread
    split at h <;> obtain rfl := Option.some.inj h
    · rename_i s'' v hw
      obtain ⟨hv, hst⟩ := writeGeolocBuffer_ok hw
      refine { hfin with store := fun d => ?_ }
      rcases hst with rfl | ⟨hne, rfl⟩
      · exact hfin.store d
      · by_cases hd : d = callKey ev k
        · subst hd
          obtain ⟨ks, hks, hw'⟩ := hi.written hread
          rw [hv, hw'] at hne ⊢
          exact ⟨ks, hks, by simp [nonemptyEntry_of_ne_nil hne]⟩
        · simpa [hd] using hfin.store d
    · exact hfin
  · exact nomatch h

theorem next_expire_inv {wo : List Nat} {s s' : State} {d : EUI64} (hi : Inv ev wo s)
    (h : next i ev s (.expire d) = some s') : Inv ev wo s' := by
  obtain rfl := Option.some.inj h
  refine ⟨fun d' => ?_, hi.read, hi.done, hi.nodup⟩
  by_cases hd : d' = d
  · exact ⟨[], ⟨List.nil_sublist _, by simp⟩, by simp [hd]⟩
  · simpa [hd] using hi.store d'

/-- The invariant holds along every interleaving, with the write order of its steps. -/
theorem run_inv {wo : List Nat} {s s' : State} {ls : List Label} (hi : Inv ev wo s)
    (h : run i ev s ls = some s') : Inv ev (wo ++ writeOrder ls) s' := by
  induction ls generalizing wo s with
  | nil => simpa [run, writeOrder] using (Option.some.inj h) ▸ hi
  | cons l ls ih =>
    simp only [run] at h
    cases hn : next i ev s l with
    | none => simp [hn] at h
    | some s₁ =>
      rw [hn, Option.some_bind] at h
      cases l with
      | read k f => simpa [writeOrder] using ih (next_read_inv hi hn) h
      | write k f => simpa [writeOrder] using ih (next_write_inv hi hn) h
      | expire d => simpa [writeOrder] using ih (next_expire_inv hi hn) h

/-- At every point of every interleaving of reads, writes and expiries, each device's entry is
the frames of distinct calls of that device, each with at least 3 receptions, in the order in
which those calls wrote: interleaving only drops frames. -/
theorem interleaving_only_drops (i : Integration) (ev : Nat → UplinkEvent) (ls : List Label)
    (s : State) (h : run i ev State.init ls = some s) (d : EUI64) :
    ∃ ks : List Nat, s.store d = nonemptyEntry (ks.map fun k => (ev k).rxInfo) ∧
      ks.Sublist (writeOrder ls) ∧ ks.Nodup ∧
      ∀ k ∈ ks, callKey ev k = d ∧ 3 ≤ (ev k).rxInfo.length := by
  have hi := run_inv inv_init h
  rw [List.nil_append] at hi
  obtain ⟨ks, hks, hst⟩ := hi.store d
  exact ⟨ks, hst, hks.1, hks.1.nodup hi.nodup, hks.2⟩

/-- Two calls read an empty buffer, then write in turn: the second write drops the first
frame, and the entry holds the second call's frame only. -/
theorem interleaving_lost_update :
    let rx (n : UInt8) : UplinkRXInfo := ⟨[n, n, n, n, n, n, n, n], [n], 1, 0, none, none⟩
    let d : EUI64 := ⟨[1, 2, 3, 4, 5, 6, 7, 8], rfl⟩
    let i : Integration := ⟨{ geolocation := true, geolocationBufferTTL := 60 }, ""⟩
    let ev (k : Nat) : UplinkEvent := ⟨1, "test-app", "test-device", d.toList,
      if k = 0 then [rx 1, rx 2, rx 3] else [rx 4, rx 5, rx 6], 10, "", []⟩
    let ls := [Label.read 0 {}, .read 1 {}, .write 0 {}, .write 1 {}]
    ∃ s, run i ev State.init ls = some s ∧ s.store d = some [[rx 4, rx 5, rx 6]] ∧
      ∃ ks : List Nat, s.store d = nonemptyEntry (ks.map fun k => (ev k).rxInfo) ∧
        ks.Sublist [0, 1] := by
  intro rx d i ev ls
  obtain ⟨s, hs⟩ := Option.isSome_iff_exists.mp (show (run i ev State.init ls).isSome by decide)
  obtain ⟨ks, hst, hsub, -⟩ := interleaving_only_drops i ev ls s hs d
  have hd : (run i ev State.init ls).map (·.store d) = some (some [[rx 4, rx 5, rx 6]]) := by
    decide
  rw [hs] at hd
  exact ⟨s, hs, Option.some.inj hd, ks, hst, hsub⟩

end LoraCloud.Interleaving
