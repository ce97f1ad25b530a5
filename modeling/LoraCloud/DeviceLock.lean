import LoraCloud.Interleaving

/-!
# Serialized updates of one device

Nothing in the integration orders the buffer updates of concurrent calls for one device, and
a stale write can drop frames (`interleaving_lost_update`). The spec allows an implementation
to take a lock per device around the update. `RespectsLock d` is what such a lock gives the
schedule, together with what it cannot give: while a call of device `d` is between its read
and its write, no other call of `d` reads, and `d`'s entry does not expire (the TTL is the
store's, not the lock's). Calls of other devices, and failed reads and writes, interleave
freely.

`run_locked`: under `RespectsLock d`, `d`'s entry is at every point the one the sequential
model gives for the schedule's writes and expiries, taken in their order (`sequential`). The
two-step updates then refine the atomic calls of `LoraCloud.run` at `d`: no update of `d` is
lost. The invariant behind it (`Agrees`) relates the interleaved state to the sequential
store. `run_locked_entry` carries the sequential run invariant over: `d`'s entry is exactly
`bufferedSince d` of the schedule's writes and expiries, and `run_locked_update` carries the
refinement to each call's outcome: a pending call of `d` hands `geolocation` the buffer the
sequential call would. `oneAtATime` checks the lock on the labels alone.

The expiry clause is needed: a write sets the entry to the buffer its call read, whatever came
in between (`write_overwrites`), so an expiry between a call's read and its write is undone and
the TTL does not bound how long a frame stays buffered.
-/

namespace LoraCloud.Interleaving

variable {i : Integration} {ev : Nat → UplinkEvent}

-- ---------------------------------------------------------------------------
-- The steps of a call, inverted
-- ---------------------------------------------------------------------------

theorem next_read_cases {s s' : State} {k : Nat} {f : StoreFaults}
    (h : next i ev s (.read k f) = some s') :
    s.phase k = .idle ∧ s'.store = s.store ∧
      ((∃ b, readGeolocBuffer i f s.store (callKey ev k) = .ok b ∧
          s' = s.setPhase k (.read b)) ∨ s' = s.setPhase k .done) := by
  simp only [next] at h
  split at h
  · rename_i hidle
    split at h <;> obtain rfl := Option.some.inj h
    · exact ⟨hidle, rfl, .inl ⟨_, ‹_›, rfl⟩⟩
    · exact ⟨hidle, rfl, .inr rfl⟩
  · exact nomatch h

theorem next_write_cases {s s' : State} {k : Nat} {f : StoreFaults}
    (h : next i ev s (.write k f) = some s') :
    ∃ b, s.phase k = .read b ∧ s'.phase = (s.setPhase k .done).phase ∧
      s'.store = if appendRxInfo b (ev k) ≠ [] ∧ i.bufferTTL ≠ 0 ∧
          f.setErr = none then s.store.set (callKey ev k) (appendRxInfo b (ev k))
        else s.store := by
  simp only [next] at h
  split at h
  · rename_i b hread
    have hw := @writeGeolocBuffer_store_eq i f s.store (callKey ev k) (ev k) b
    refine ⟨b, hread, ?_⟩
    cases hwb : writeGeolocBuffer i f s.store (callKey ev k) b (ev k) with
    | ok r =>
      obtain ⟨st, v⟩ := r
      simp only [hwb, Option.some.injEq] at h hw
      subst h
      exact ⟨rfl, hw⟩
    | error e =>
      simp only [hwb, Option.some.injEq] at h hw
      subst h
      exact ⟨rfl, hw⟩
  · exact nomatch h

/-- The call a step belongs to; an expiry belongs to none. -/
def Label.call : Label → Option Nat
  | .read k _ | .write k _ => some k
  | .expire _ => none

theorem next_phase_other {s s' : State} {l : Label} {k : Nat} (h : next i ev s l = some s')
    (hl : l.call ≠ some k) : s'.phase k = s.phase k := by
  cases l with
  | read j f =>
    have hkj : k ≠ j := fun h => hl (h ▸ rfl)
    obtain ⟨-, -, ⟨b, -, rfl⟩ | rfl⟩ := next_read_cases h <;> simp [State.setPhase, hkj]
  | write j f =>
    obtain ⟨b, -, hph, -⟩ := next_write_cases h
    rw [hph]
    simp [State.setPhase, show k ≠ j from fun h => hl (h ▸ rfl)]
  | expire d => rw [← Option.some.inj h]

theorem run_phase_other {s s' : State} {ls : List Label} {k : Nat}
    (hls : ∀ l ∈ ls, l.call ≠ some k) (h : run i ev s ls = some s') : s'.phase k = s.phase k := by
  induction ls generalizing s with
  | nil => rw [← Option.some.inj h]
  | cons l ls ih =>
    obtain ⟨s₁, h₁, h₂⟩ := Option.bind_eq_some.mp h
    rw [ih (fun l' hl' => hls l' (List.mem_cons_of_mem l hl')) h₂,
      next_phase_other h₁ (hls l (List.mem_cons_self l ls))]

-- ---------------------------------------------------------------------------
-- The lock, and the sequential calls a schedule stands for
-- ---------------------------------------------------------------------------

/-- The guard of `d`'s lock on the next step: a call of `d` reads, and `d`'s entry expires,
only while no call of `d` is between its read and its write. -/
def Locked (ev : Nat → UplinkEvent) (d : EUI64) (s : State) : Label → Prop
  | .read k _ => callKey ev k = d → ∀ j b, callKey ev j = d → s.phase j ≠ .read b
  | .write _ _ => True
  | .expire d' => d' = d → ∀ j b, callKey ev j = d → s.phase j ≠ .read b

/-- Every step of the schedule, from `s`, keeps `d`'s lock. -/
def RespectsLock (i : Integration) (ev : Nat → UplinkEvent) (d : EUI64) :
    State → List Label → Prop
  | _, [] => True
  | s, l :: ls => Locked ev d s l ∧ ∀ s', next i ev s l = some s' → RespectsLock i ev d s' ls

/-- The sequential calls a schedule stands for: a write completes its call, whose read
succeeded, at the moment it writes; an expiry is an expiry; a read alone changes nothing. -/
def sequential (i : Integration) (ev : Nat → UplinkEvent) (client : Client) :
    List Label → List Event :=
  List.filterMap fun
    | .read _ _ => none
    | .write k f => some (.uplink i ⟨{ setErr := f.setErr }, client⟩ (ev k))
    | .expire d => some (.expire d)

/-- The lock read off the labels alone: `d`'s calls take their steps one call at a time, read
then write, and `d` expires only between them; `o` is the call of `d` that has read and not
yet written. -/
def oneAtATime (ev : Nat → UplinkEvent) (d : EUI64) : Option Nat → List Label → Bool
  | _, [] => true
  | o, .read k _ :: ls =>
    if callKey ev k = d then o.isNone && oneAtATime ev d (some k) ls else oneAtATime ev d o ls
  | o, .write k _ :: ls =>
    if callKey ev k = d then o == some k && oneAtATime ev d none ls else oneAtATime ev d o ls
  | o, .expire d' :: ls =>
    if d' = d then o.isNone && oneAtATime ev d none ls else oneAtATime ev d o ls

theorem respectsLock_of_oneAtATime {d : EUI64} {o : Option Nat} {ls : List Label} {s : State}
    (hs : ∀ j b, callKey ev j = d → s.phase j = .read b → o = some j)
    (h : oneAtATime ev d o ls = true) : RespectsLock i ev d s ls := by
  induction ls generalizing s o with
  | nil => trivial
  | cons l ls ih =>
    cases l with
    | read k f =>
      have hlock : Locked ev d s (.read k f) := fun hk j b hj hjb => by
        simp [oneAtATime, hk, hs j b hj hjb] at h
      refine ⟨hlock, fun s' hn => ?_⟩
      have hother : ∀ j, j ≠ k → s'.phase j = s.phase j := fun j hj =>
        next_phase_other hn fun h => hj (Option.some.inj h).symm
      by_cases hk : callKey ev k = d
      · simp only [oneAtATime, hk, if_true, Bool.and_eq_true] at h
        refine ih (o := some k) (fun j b hj hjb => ?_) h.2
        by_cases hjk : j = k
        · rw [hjk]
        · exact absurd (hother j hjk ▸ hjb) (hlock hk j b hj)
      · simp only [oneAtATime, hk, if_false] at h
        exact ih (fun j b hj hjb => hs j b hj
          (hother j (fun h => hk (h ▸ hj)) ▸ hjb)) h
    | write k f =>
      refine ⟨trivial, fun s' hn => ?_⟩
      obtain ⟨b, -, hph, -⟩ := next_write_cases hn
      by_cases hk : callKey ev k = d
      · simp only [oneAtATime, hk, if_true, Bool.and_eq_true, beq_iff_eq] at h
        refine ih (o := none) (fun j bj hj hjb => ?_) h.2
        rw [hph] at hjb
        by_cases hjk : j = k
        · simp [State.setPhase, hjk] at hjb
        · simp only [State.setPhase, hjk, if_false] at hjb
          exact absurd (Option.some.inj ((hs j bj hj hjb).symm.trans h.1)) hjk
      · simp only [oneAtATime, hk, if_false] at h
        exact ih (fun j bj hj hjb => hs j bj hj
          (next_phase_other hn (fun h => hk (Option.some.inj h ▸ hj)) ▸ hjb)) h
    | expire d' =>
      have hlock : Locked ev d s (.expire d') := fun hd j b hj hjb => by
        simp [oneAtATime, hd, hs j b hj hjb] at h
      refine ⟨hlock, fun s' hn => ?_⟩
      obtain rfl := Option.some.inj hn
      by_cases hd : d' = d
      · simp only [oneAtATime, hd, if_true, Bool.and_eq_true] at h
        exact ih (o := none) (fun j b hj hjb => absurd hjb (hlock hd j b hj)) h.2
      · simp only [oneAtATime, hd, if_false] at h
        exact ih hs h

-- ---------------------------------------------------------------------------
-- The last write wins
-- ---------------------------------------------------------------------------

/-- The last write wins, with the buffer its call read: whatever steps of other calls and
expiries come between a call's read and its successful write, the write sets its device's
entry to that buffer with its own frame. Every frame written in between is dropped, and an
expired entry comes back, so no lock held across the update keeps expiries from being undone;
`Locked` keeps them out of the schedule. -/
theorem write_overwrites {s s' : State} {k : Nat} {f : StoreFaults} {b : List Frame}
    {ls : List Label} (httl : 0 < i.bufferTTL) (hset : f.setErr = none)
    (hne : appendRxInfo b (ev k) ≠ []) (hk : s.phase k = .read b)
    (hls : ∀ l ∈ ls, l.call ≠ some k) (h : run i ev s (ls ++ [.write k f]) = some s') :
    s'.store (callKey ev k) = some (appendRxInfo b (ev k)) := by
  rw [run_append] at h
  obtain ⟨s₁, h₁, h₂⟩ := Option.bind_eq_some.mp h
  have hw : next i ev s₁ (.write k f) = some s' := by simpa [run] using h₂
  obtain ⟨b', hb', -, hst⟩ := next_write_cases hw
  obtain rfl : b' = b := Phase.read.inj (hb'.symm.trans ((run_phase_other hls h₁).trans hk))
  rw [hst, if_pos ⟨hne, Int.ne_of_gt httl, hset⟩]
  simp

/-- Call 0 buffers its frame and call 1 reads it; then call 2 appends its frame and the entry
expires; then call 1 writes. Call 2's frame is lost and call 0's expired frame is back. -/
theorem write_overwrites_lost_and_restored :
    let rx (n : UInt8) : UplinkRXInfo := ⟨[n, n, n, n, n, n, n, n], [n], 1, 0, none, none⟩
    let d : EUI64 := ⟨[1, 2, 3, 4, 5, 6, 7, 8], rfl⟩
    let i : Integration := ⟨{ geolocation := true, geolocationBufferTTL := 60 }, ""⟩
    let ev (k : Nat) : UplinkEvent := ⟨1, "test-app", "test-device", d.toList,
      if k = 0 then [rx 1, rx 2, rx 3] else if k = 1 then [rx 4, rx 5, rx 6]
      else [rx 7, rx 8, rx 9], 10, "", []⟩
    let ls := [Label.read 2 {}, .write 2 {}, .expire d]
    ∃ s s', run i ev State.init [.read 0 {}, .write 0 {}, .read 1 {}] = some s ∧
      run i ev s (ls ++ [.write 1 {}]) = some s' ∧
      s'.store d = some [[rx 1, rx 2, rx 3], [rx 4, rx 5, rx 6]] := by
  intro rx d i ev ls
  obtain ⟨s, hs⟩ := Option.isSome_iff_exists.mp
    (show (run i ev State.init [.read 0 {}, .write 0 {}, .read 1 {}]).isSome by decide)
  obtain ⟨s', hs'⟩ := Option.isSome_iff_exists.mp
    (show (run i ev State.init ([.read 0 {}, .write 0 {}, .read 1 {}] ++ (ls ++ [.write 1 {}]))).isSome
      by decide)
  rw [run_append, hs, Option.some_bind] at hs'
  have hph : (run i ev State.init [.read 0 {}, .write 0 {}, .read 1 {}]).map (·.phase 1) =
      some (.read [[rx 1, rx 2, rx 3]]) := by
    decide
  rw [hs] at hph
  have hd : callKey ev 1 = d := by decide
  refine ⟨s, s', hs, hs', ?_⟩
  rw [← hd, write_overwrites (by decide) rfl (by decide) (Option.some.inj hph) (by decide) hs']
  rfl

-- ---------------------------------------------------------------------------
-- The invariant
-- ---------------------------------------------------------------------------

/-- The interleaved state `s` and the sequential store `σ` hold the same entry for `d`; at most
one call of `d` is between its read and its write, and its buffer is still the one a read
would give now. -/
structure Agrees (i : Integration) (ev : Nat → UplinkEvent) (d : EUI64) (s : State)
    (σ : Store) : Prop where
  entry : s.store d = σ d
  current : ∀ k b, callKey ev k = d → s.phase k = .read b →
    b = if i.bufferTTL = 0 then [] else (s.store d).getD []
  single : ∀ j k bj bk, callKey ev j = d → callKey ev k = d → s.phase j = .read bj →
    s.phase k = .read bk → j = k

theorem agrees_init (d : EUI64) : Agrees i ev d State.init Store.empty :=
  ⟨rfl, fun _ _ _ h => (nomatch h), fun _ _ _ _ _ _ h => (nomatch h)⟩

variable {d : EUI64} {s s' : State} {σ : Store}

theorem agrees_read {k : Nat} {f : StoreFaults} (ha : Agrees i ev d s σ)
    (hl : Locked ev d s (.read k f)) (h : next i ev s (.read k f) = some s') :
    Agrees i ev d s' σ := by
  obtain ⟨-, hst, hcase⟩ := next_read_cases h
  have hother : ∀ j, j ≠ k → s'.phase j = s.phase j := fun j hj =>
    next_phase_other h fun h' => hj (Option.some.inj h').symm
  refine ⟨hst ▸ ha.entry, fun j b hj hjb => ?_, fun j₁ j₂ b₁ b₂ h₁ h₂ hb₁ hb₂ => ?_⟩
  · rw [hst]
    by_cases hjk : j = k
    · subst hjk
      rcases hcase with ⟨b', hr, rfl⟩ | rfl
      · simp only [State.setPhase, if_true, Phase.read.injEq] at hjb
        subst hjb
        rw [hj] at hr
        exact (readGeolocBuffer_eq_ok.mp hr).2
      · simp [State.setPhase] at hjb
    · exact ha.current j b hj (hother j hjk ▸ hjb)
  · by_cases h1 : j₁ = k <;> by_cases h2 : j₂ = k
    · rw [h1, h2]
    · subst h1
      exact absurd (hother j₂ h2 ▸ hb₂) (hl h₁ j₂ b₂ h₂)
    · subst h2
      exact absurd (hother j₁ h1 ▸ hb₁) (hl h₂ j₁ b₁ h₁)
    · exact ha.single j₁ j₂ b₁ b₂ h₁ h₂ (hother j₁ h1 ▸ hb₁) (hother j₂ h2 ▸ hb₂)

theorem agrees_write_own {k : Nat} {b : List Frame} (ha : Agrees i ev d s σ)
    (hk : callKey ev k = d) (hread : s.phase k = .read b)
    (hph : s'.phase = (s.setPhase k .done).phase) :
    ∀ j bj, callKey ev j = d → s'.phase j ≠ .read bj := by
  intro j bj hj hjb
  rw [hph] at hjb
  by_cases hjk : j = k
  · simp [State.setPhase, hjk] at hjb
  · simp only [State.setPhase, hjk, if_false] at hjb
    exact hjk (ha.single j k bj b hj hk hjb hread)

theorem agrees_write {unmarshal : String → Except GoError JsonObject} {client : Client} {k : Nat}
    {f : StoreFaults} (hgeo : i.config.geolocation = true) (ha : Agrees i ev d s σ)
    (h : next i ev s (.write k f) = some s') :
    Agrees i ev d s'
      (step unmarshal σ (.uplink i ⟨{ setErr := f.setErr }, client⟩ (ev k))) := by
  obtain ⟨b, hread, hph, hst⟩ := next_write_cases h
  have hkey : Bytes.copy (ev k).devEui = callKey ev k := rfl
  rw [step_uplink_eq hgeo]
  simp only [hkey]
  by_cases hk : callKey ev k = d
  · subst hk
    have hb := ha.current k b rfl hread
    have hnone := agrees_write_own ha rfl hread hph
    refine ⟨?_, fun j bj hj hjb => absurd hjb (hnone j bj hj),
      fun j _ bj _ hj _ hjb _ => absurd hjb (hnone j bj hj)⟩
    rw [hst, hb, ha.entry]
    split_ifs <;> simp [ha.entry]
  · have hother : ∀ j, callKey ev j = d → s'.phase j = s.phase j := fun j hj =>
      next_phase_other h fun h' => hk (Option.some.inj h' ▸ hj)
    have hd : s'.store d = s.store d := by rw [hst, Store.ite_set_apply_of_ne hk]
    refine ⟨?_, fun j bj hj hjb => ?_, fun j₁ j₂ b₁ b₂ h₁ h₂ hb₁ hb₂ => ?_⟩
    · rw [hd, ha.entry, Store.ite_set_apply_of_ne hk]
    · rw [hd]
      exact ha.current j bj hj (hother j hj ▸ hjb)
    · exact ha.single j₁ j₂ b₁ b₂ h₁ h₂ (hother j₁ h₁ ▸ hb₁) (hother j₂ h₂ ▸ hb₂)

theorem agrees_expire {unmarshal : String → Except GoError JsonObject} {d' : EUI64}
    (ha : Agrees i ev d s σ) (hl : Locked ev d s (.expire d'))
    (h : next i ev s (.expire d') = some s') :
    Agrees i ev d s' (step unmarshal σ (.expire d')) := by
  obtain rfl := Option.some.inj h
  by_cases hd : d' = d
  · subst hd
    exact ⟨by simp [step], fun j b hj hjb => absurd hjb (hl rfl j b hj),
      fun j _ b _ hj _ hjb _ => absurd hjb (hl rfl j b hj)⟩
  · refine ⟨by simp [step, Ne.symm hd, ha.entry], fun j b hj hjb => ?_, ha.single⟩
    simpa [Ne.symm hd] using ha.current j b hj hjb

/-- The invariant holds along every schedule that keeps `d`'s lock, against the sequential
run of the calls it stands for. -/
theorem agrees_run {unmarshal : String → Except GoError JsonObject} {client : Client}
    {ls : List Label} (hgeo : i.config.geolocation = true) (ha : Agrees i ev d s σ)
    (hl : RespectsLock i ev d s ls) (h : run i ev s ls = some s') :
    Agrees i ev d s' (LoraCloud.run unmarshal σ (sequential i ev client ls)) := by
  induction ls generalizing s σ with
  | nil => exact Option.some.inj h ▸ ha
  | cons l ls ih =>
    simp only [run] at h
    cases hn : next i ev s l with
    | none => simp [hn] at h
    | some s₁ =>
      rw [hn, Option.some_bind] at h
      cases l with
      | read k f => exact ih (agrees_read ha hl.1 hn) (hl.2 s₁ hn) h
      | write k f => exact ih (agrees_write hgeo ha hn) (hl.2 s₁ hn) h
      | expire d' => exact ih (agrees_expire ha hl.1 hn) (hl.2 s₁ hn) h

/-- Under `d`'s lock, at every point of every schedule, `d`'s entry is the one the sequential
model leaves after the schedule's writes, each a whole call, and expiries, in order: no update
of `d` is lost. -/
theorem run_locked (unmarshal : String → Except GoError JsonObject) (client : Client)
    (hgeo : i.config.geolocation = true) (d : EUI64) (ls : List Label) (s : State)
    (h : run i ev State.init ls = some s) (hl : RespectsLock i ev d State.init ls) :
    s.store d = LoraCloud.run unmarshal Store.empty (sequential i ev client ls) d :=
  (agrees_run hgeo (agrees_init d) hl h).entry

theorem run_locked_keeps_both :
    let rx (n : UInt8) : UplinkRXInfo := ⟨[n, n, n, n, n, n, n, n], [n], 1, 0, none, none⟩
    let d : EUI64 := ⟨[1, 2, 3, 4, 5, 6, 7, 8], rfl⟩
    let i : Integration := ⟨{ geolocation := true, geolocationBufferTTL := 60 }, ""⟩
    let ev (k : Nat) : UplinkEvent := ⟨1, "test-app", "test-device",
      if k = 2 then [8, 7, 6, 5, 4, 3, 2, 1] else d.toList,
      if k = 0 then [rx 1, rx 2, rx 3] else [rx 4, rx 5, rx 6], 10, "", []⟩
    let ls := [Label.read 0 {}, .read 2 {}, .write 0 {}, .read 1 {}, .write 2 {}, .write 1 {}]
    ∃ s, run i ev State.init ls = some s ∧ RespectsLock i ev d State.init ls ∧
      s.store d = some [[rx 1, rx 2, rx 3], [rx 4, rx 5, rx 6]] := by
  intro rx d i ev ls
  obtain ⟨s, hs⟩ := Option.isSome_iff_exists.mp (show (run i ev State.init ls).isSome by decide)
  have hl : RespectsLock i ev d State.init ls :=
    respectsLock_of_oneAtATime (o := none) (fun _ _ _ h => nomatch h) (by decide)
  refine ⟨s, hs, hl, ?_⟩
  rw [run_locked (fun _ => .ok []) (fun _ => ⟨⟨0, 0, 0, .UNKNOWN, 0⟩, none⟩) rfl d ls s hs hl]
  decide

theorem sequential_wellFormed {client : Client} {ls : List Label}
    (httl : 0 < i.bufferTTL) (hlen : ∀ k, (ev k).devEui.length = 8) :
    ∀ e ∈ sequential i ev client ls, e.WellFormed := by
  intro e he
  obtain ⟨l, -, hl⟩ := List.mem_filterMap.mp he
  cases l with
  | read => exact nomatch hl
  | write k f => exact Option.some.inj hl ▸ ⟨httl, hlen k⟩
  | expire => exact Option.some.inj hl ▸ trivial

/-- The sequential run invariant, carried over to the interleaved runs by the lock: with a
positive TTL and 8-byte DevEUIs, `d`'s entry holds exactly the frames, in write order, of the
calls of `d` with 3 receptions or more whose write succeeded since `d` last expired. Each such
write is kept once, and nothing else is kept. -/
theorem run_locked_entry (client : Client) (hgeo : i.config.geolocation = true)
    (httl : 0 < i.bufferTTL) (hlen : ∀ k, (ev k).devEui.length = 8)
    (d : EUI64) (ls : List Label) (s : State) (h : run i ev State.init ls = some s)
    (hl : RespectsLock i ev d State.init ls) :
    s.store d = nonemptyEntry (bufferedSince d (sequential i ev client ls)) := by
  have ha : Agrees i ev d s (LoraCloud.run (fun _ => .ok []) Store.empty (sequential i ev client ls)) :=
    agrees_run hgeo (agrees_init d) hl h
  exact ha.entry.trans (run_entry (sequential_wellFormed httl hlen))

theorem run_locked_entry_keeps_both :
    let rx (n : UInt8) : UplinkRXInfo := ⟨[n, n, n, n, n, n, n, n], [n], 1, 0, none, none⟩
    let d : EUI64 := ⟨[1, 2, 3, 4, 5, 6, 7, 8], rfl⟩
    let i : Integration := ⟨{ geolocation := true, geolocationBufferTTL := 60 }, ""⟩
    let ev (k : Nat) : UplinkEvent := ⟨1, "test-app", "test-device",
      if k = 2 then [8, 7, 6, 5, 4, 3, 2, 1] else d.toList,
      if k = 0 then [rx 1, rx 2, rx 3] else [rx 4, rx 5, rx 6], 10, "", []⟩
    let ls := [Label.read 0 {}, .read 2 {}, .write 0 {}, .read 1 {}, .write 2 {}, .write 1 {}]
    let client : Client := fun _ => ⟨⟨0, 0, 0, .UNKNOWN, 0⟩, none⟩
    ∃ s, run i ev State.init ls = some s ∧ RespectsLock i ev d State.init ls ∧
      s.store d = nonemptyEntry (bufferedSince d (sequential i ev client ls)) ∧
      bufferedSince d (sequential i ev client ls) = [[rx 1, rx 2, rx 3], [rx 4, rx 5, rx 6]] := by
  intro rx d i ev ls client
  obtain ⟨s, hs⟩ := Option.isSome_iff_exists.mp (show (run i ev State.init ls).isSome by decide)
  have hl : RespectsLock i ev d State.init ls :=
    respectsLock_of_oneAtATime (o := none) (fun _ _ _ h => nomatch h) (by decide)
  have hlen : ∀ k, (ev k).devEui.length = 8 := fun k => by
    by_cases hk : k = 2 <;> simp [ev, hk, d]
  exact ⟨s, hs, hl, run_locked_entry client rfl (by decide) hlen d ls s hs hl, by decide⟩

/-- Under `d`'s lock, a call of `d` between its read and its write holds the buffer that a read
of the sequential store gives at that point. Its write therefore hands `geolocation` the same
buffer, or fails with the same error, as the whole call the sequential model makes there for
it. -/
theorem run_locked_update (unmarshal : String → Except GoError JsonObject) (client : Client)
    (hgeo : i.config.geolocation = true) (d : EUI64) (ls : List Label) (s : State) (k : Nat)
    (b : List Frame) (f : StoreFaults) (h : run i ev State.init ls = some s)
    (hl : RespectsLock i ev d State.init ls) (hk : callKey ev k = d) (hb : s.phase k = .read b) :
    readGeolocBuffer i { setErr := f.setErr }
        (LoraCloud.run unmarshal Store.empty (sequential i ev client ls)) d = .ok b ∧
      (updateGeolocBuffer i { setErr := f.setErr }
        (LoraCloud.run unmarshal Store.empty (sequential i ev client ls)) d (ev k)).map Prod.snd =
      (writeGeolocBuffer i f s.store d b (ev k)).map Prod.snd := by
  have ha : Agrees i ev d s (LoraCloud.run unmarshal Store.empty (sequential i ev client ls)) :=
    agrees_run hgeo (agrees_init d) hl h
  have hr : readGeolocBuffer i { setErr := f.setErr }
      (LoraCloud.run unmarshal Store.empty (sequential i ev client ls)) d = .ok b :=
    readGeolocBuffer_eq_ok.mpr ⟨.inr rfl, ha.entry ▸ ha.current k b hk hb⟩
  refine ⟨hr, ?_⟩
  simp only [updateGeolocBuffer, hr]
  exact writeGeolocBuffer_outcome b rfl

theorem run_locked_update_pending :
    let rx (n : UInt8) : UplinkRXInfo := ⟨[n, n, n, n, n, n, n, n], [n], 1, 0, none, none⟩
    let d : EUI64 := ⟨[1, 2, 3, 4, 5, 6, 7, 8], rfl⟩
    let i : Integration := ⟨{ geolocation := true, geolocationBufferTTL := 60 }, ""⟩
    let ev (k : Nat) : UplinkEvent := ⟨1, "test-app", "test-device",
      if k = 2 then [8, 7, 6, 5, 4, 3, 2, 1] else d.toList,
      if k = 0 then [rx 1, rx 2, rx 3] else [rx 4, rx 5, rx 6], 10, "", []⟩
    let ls := [Label.read 0 {}, .read 2 {}, .write 0 {}, .read 1 {}]
    let client : Client := fun _ => ⟨⟨0, 0, 0, .UNKNOWN, 0⟩, none⟩
    ∃ s, run i ev State.init ls = some s ∧ RespectsLock i ev d State.init ls ∧
      s.phase 1 = .read [[rx 1, rx 2, rx 3]] ∧
      readGeolocBuffer i {} (LoraCloud.run (fun _ => .ok []) Store.empty
        (sequential i ev client ls)) d = .ok [[rx 1, rx 2, rx 3]] ∧
      (updateGeolocBuffer i {} (LoraCloud.run (fun _ => .ok []) Store.empty
          (sequential i ev client ls)) d (ev 1)).map Prod.snd =
        (writeGeolocBuffer i {} s.store d [[rx 1, rx 2, rx 3]] (ev 1)).map Prod.snd := by
  intro rx d i ev ls client
  obtain ⟨s, hs⟩ := Option.isSome_iff_exists.mp (show (run i ev State.init ls).isSome by decide)
  have hl : RespectsLock i ev d State.init ls :=
    respectsLock_of_oneAtATime (o := none) (fun _ _ _ h => nomatch h) (by decide)
  have hph : (run i ev State.init ls).map (·.phase 1) = some (.read [[rx 1, rx 2, rx 3]]) := by
    decide
  rw [hs] at hph
  exact ⟨s, hs, hl, Option.some.inj hph, run_locked_update (fun _ => .ok []) client rfl d ls s 1
    _ {} hs hl (by decide) (Option.some.inj hph)⟩

end LoraCloud.Interleaving
