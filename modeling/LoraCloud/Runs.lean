import LoraCloud.Integration

/-!
# The store over whole runs

A run is a sequence of steps on the shared store: `HandleUplinkEvent` calls, each atomic in
its own environment (the store's answers and the resolver's behaviour), and expiries, each
deleting one device's entry. Calls may belong to different integrations and devices.

`bufferedSince d evs` says what `d`'s buffer should hold after a run: the frames of `d`'s
uplinks, with 3 receptions or more, whose buffer update completed since `d`'s entry last
expired. `run_entry` is the run invariant: with positive durations
`time.Duration(TTL)*time.Second` and 8-byte DevEUIs, the store holds exactly that, with no entry
for an empty buffer. A TTL whose duration wraps to 0 bypasses the store, and the invariant fails
for it (`buffer_ttl_wraps_to_zero`); for every TTL the entry is a sublist of that history
(`run_entry_sublist`). Every stored frame has at least 3
receptions in every run (`run_frames`), so a location event's uplink ids tell the buffer
strategies apart from GNSS and WiFi.

Over the same runs, a call sends the request the priority rule picks over its device's history
(`handleUplinkEvent_run_requests`), and a location event cites, in order, only uplinks of that
history (`location_event_uplinks`).

A call that fails after its buffer update returns an error, and the dispatcher may deliver the
uplink again; the second delivery appends the same frame a second time
(`redelivery_duplicates_frame`).
-/

namespace LoraCloud

/-- One step of the world around the integration. -/
inductive Event where
  /-- A `HandleUplinkEvent` call of integration `i` in environment `env`. -/
  | uplink (i : Integration) (env : CallEnv) (pl : UplinkEvent)
  /-- The TTL of `d`'s buffer runs out. -/
  | expire (d : EUI64)

def step (unmarshal : String → Except GoError JsonObject) (s : Store) : Event → Store
  | .uplink i env pl => (handleUplinkEvent unmarshal i env s pl).store
  | .expire d => s.erase d

def run (unmarshal : String → Except GoError JsonObject) (s : Store) (evs : List Event) :
    Store :=
  evs.foldl (step unmarshal) s

/-- The calls the run invariant is stated for: the duration handed to the store is positive,
and the DevEUI has 8 bytes. -/
def Event.WellFormed : Event → Prop
  | .uplink i _ pl => 0 < i.bufferTTL ∧ pl.devEui.length = 8
  | .expire _ => True

instance : DecidablePred Event.WellFormed := fun e =>
  match e with
  | .uplink .. => inferInstanceAs (Decidable (_ ∧ _))
  | .expire _ => inferInstanceAs (Decidable True)

/-- A call whose DevEUI has 8 bytes, so that its store key is its DevEUI. -/
def Event.HasEUI64 : Event → Prop
  | .uplink _ _ pl => pl.devEui.length = 8
  | .expire _ => True

instance : DecidablePred Event.HasEUI64 := fun e =>
  match e with
  | .uplink .. => inferInstanceAs (Decidable (_ = _))
  | .expire _ => inferInstanceAs (Decidable True)

/-- A call of `d`'s that completes its buffer update and appends its frame. -/
def Event.Appends (d : EUI64) : Event → Prop
  | .uplink i env pl => i.config.geolocation = true ∧ pl.devEui = d.toList ∧
      3 ≤ pl.rxInfo.length ∧ env.faults.getErr = none ∧ env.faults.setErr = none
  | .expire _ => False

instance (d : EUI64) : DecidablePred (Event.Appends d) := fun e =>
  match e with
  | .uplink .. => inferInstanceAs (Decidable (_ ∧ _))
  | .expire _ => inferInstanceAs (Decidable False)

/-- The buffered frames of `d`, one step on. -/
def bufferedStep (d : EUI64) (h : List Frame) : Event → List Frame
  | .uplink i env pl => if (Event.uplink i env pl).Appends d then h ++ [pl.rxInfo] else h
  | .expire d' => if d' = d then [] else h

/-- The frames of `d`'s uplinks with at least 3 receptions whose buffer update completed since
`d`'s entry last expired, oldest first. -/
def bufferedSince (d : EUI64) (evs : List Event) : List Frame :=
  evs.foldl (bufferedStep d) []

/-- A buffer as the store holds it: an empty buffer is no entry. -/
def nonemptyEntry : List Frame → Option (List Frame)
  | [] => none
  | l => some l

@[simp] theorem nonemptyEntry_nil : nonemptyEntry [] = none := rfl

theorem nonemptyEntry_of_ne_nil {l : List Frame} (h : l ≠ []) : nonemptyEntry l = some l := by
  cases l
  · exact absurd rfl h
  · rfl

@[simp] theorem nonemptyEntry_getD (l : List Frame) : (nonemptyEntry l).getD [] = l := by
  cases l <;> rfl

theorem nonemptyEntry_ne_some_nil (l : List Frame) : nonemptyEntry l ≠ some [] := by
  cases l <;> simp [nonemptyEntry]

-- ---------------------------------------------------------------------------
-- The run invariant
-- ---------------------------------------------------------------------------

section Invariant

variable {unmarshal : String → Except GoError JsonObject} {d : EUI64}

/-- One step keeps `d`'s entry in line with the buffered frames. -/
theorem step_entry {s : Store} {H : List Frame} {e : Event} (hwf : e.WellFormed)
    (hs : s d = nonemptyEntry H) : step unmarshal s e d = nonemptyEntry (bufferedStep d H e) := by
  cases e with
  | expire d' =>
    by_cases hd : d' = d
    · subst hd; simp [step, bufferedStep]
    · simp [step, bufferedStep, hd, Ne.symm hd, hs]
  | uplink i env pl =>
    obtain ⟨httl, hlen⟩ := hwf
    have hH : (s d).getD [] = H := by rw [hs, nonemptyEntry_getD]
    simp only [step, handleUplinkEvent_store_apply (Int.ne_of_gt httl) d, hH,
      Bytes.copy_eq_iff hlen, bufferedStep, Event.Appends]
    by_cases h3 : 3 ≤ pl.rxInfo.length
    · have hne : H ++ [pl.rxInfo] ≠ [] := by simp
      simp only [appendRxInfo, h3, if_true, ne_eq, hne, not_false_eq_true, and_true, true_and]
      split_ifs with hc
      · exact (nonemptyEntry_of_ne_nil hne).symm
      · exact hs
    · simp only [appendRxInfo, h3, if_false, false_and, and_false]
      split_ifs with hc
      · exact (nonemptyEntry_of_ne_nil hc.2.2.2.2).symm
      · exact hs

theorem foldl_step_entry {s : Store} {H : List Frame} {evs : List Event}
    (hwf : ∀ e ∈ evs, e.WellFormed) (hs : s d = nonemptyEntry H) :
    evs.foldl (step unmarshal) s d = nonemptyEntry (evs.foldl (bufferedStep d) H) := by
  induction evs generalizing s H with
  | nil => exact hs
  | cons e evs ih =>
    exact ih (fun e' he' => hwf e' (List.mem_cons_of_mem e he'))
      (step_entry (hwf e (List.mem_cons_self e evs)) hs)

/-- The run invariant: `d`'s entry is exactly `bufferedSince d evs`. -/
theorem run_entry {evs : List Event} (hwf : ∀ e ∈ evs, e.WellFormed) :
    run unmarshal Store.empty evs d = nonemptyEntry (bufferedSince d evs) :=
  foldl_step_entry hwf rfl

theorem bufferedStep_sublist {E H : List Frame} (h : E.Sublist H) (e : Event) :
    (bufferedStep d E e).Sublist (bufferedStep d H e) := by
  cases e with
  | expire d' => simp only [bufferedStep]; split_ifs <;> simp [h]
  | uplink i env pl => simp only [bufferedStep]; split_ifs <;> simp [h]

theorem step_uplink_getD {s : Store} {i : Integration} {env : CallEnv} {pl : UplinkEvent}
    (h0 : i.bufferTTL ≠ 0) (hlen : pl.devEui.length = 8) :
    (step unmarshal s (.uplink i env pl) d).getD [] =
      bufferedStep d ((s d).getD []) (.uplink i env pl) := by
  simp only [step, handleUplinkEvent_store_apply h0 d, Bytes.copy_eq_iff hlen, bufferedStep,
    Event.Appends, appendRxInfo]
  by_cases h3 : 3 ≤ pl.rxInfo.length <;> simp only [h3, if_true, if_false] <;> split_ifs <;> simp_all

theorem step_entry_sublist {s : Store} {H : List Frame} {e : Event} (he : e.HasEUI64)
    (hs : ((s d).getD []).Sublist H) : ((step unmarshal s e d).getD []).Sublist (bufferedStep d H e) := by
  cases e with
  | expire d' =>
    by_cases hd : d' = d
    · subst hd; simp [step, bufferedStep]
    · simpa [step, bufferedStep, hd, Ne.symm hd] using hs
  | uplink i env pl =>
    by_cases h0 : i.bufferTTL = 0
    · have hst : step unmarshal s (.uplink i env pl) = s := by
        simp only [step, handleUplinkEvent_store, updateGeolocBuffer_ttl_zero h0]
        split_ifs <;> rfl
      rw [hst, bufferedStep]
      split_ifs
      · exact hs.trans (List.sublist_append_left _ _)
      · exact hs
    · rw [step_uplink_getD h0 he]
      exact bufferedStep_sublist hs _

/-- For every TTL, `d`'s entry after a run of calls with 8-byte DevEUIs is a sublist of the
frames buffered since its last expiry. -/
theorem run_entry_sublist {evs : List Event} (he : ∀ e ∈ evs, e.HasEUI64) :
    ((run unmarshal Store.empty evs d).getD []).Sublist (bufferedSince d evs) := by
  unfold run bufferedSince
  suffices ∀ (s : Store) (H : List Frame), ((s d).getD []).Sublist H →
      ((evs.foldl (step unmarshal) s d).getD []).Sublist (evs.foldl (bufferedStep d) H) from
    this _ _ (List.nil_sublist _)
  induction evs with
  | nil => exact fun _ _ h => h
  | cons e evs ih =>
    exact fun s H h => ih (fun e' he' => he e' (List.mem_cons_of_mem e he')) _ _
      (step_entry_sublist (he e (List.mem_cons_self e evs)) h)

theorem bufferedStep_frames {H : List Frame} (hH : ∀ f ∈ H, 3 ≤ f.length) (e : Event) :
    ∀ f ∈ bufferedStep d H e, 3 ≤ f.length := by
  cases e with
  | expire d' =>
    simp only [bufferedStep]
    split_ifs
    · exact fun _ h => nomatch h
    · exact hH
  | uplink i env pl =>
    simp only [bufferedStep]
    split_ifs with ha
    · intro f hf
      rcases List.mem_append.mp hf with hf | hf
      · exact hH f hf
      · exact List.mem_singleton.mp hf ▸ ha.2.2.1
    · exact hH

theorem bufferedSince_frames (evs : List Event) : ∀ f ∈ bufferedSince d evs, 3 ≤ f.length :=
  List.foldlRecOn (motive := fun H : List Frame => ∀ f ∈ H, 3 ≤ f.length) evs _ _ (fun _ h => nomatch h)
    fun _ hH e _ => bufferedStep_frames hH e

theorem updateGeolocBuffer_entry {i : Integration} {f : StoreFaults} {s s' : Store} {k : EUI64}
    {pl : UplinkEvent} {buf : List Frame} (h0 : i.bufferTTL ≠ 0)
    (hs : s k ≠ some []) (h : updateGeolocBuffer i f s k pl = .ok (s', buf)) :
    s' k = nonemptyEntry buf := by
  rw [updateGeolocBuffer_eq h0] at h
  cases hg : f.getErr with
  | some err => simp [hg] at h
  | none =>
    simp only [hg] at h
    split_ifs at h with he
    · obtain ⟨hs', rfl⟩ := Prod.mk.inj (Except.ok.inj h)
      have hb := appendRxInfo_eq_nil he
      rw [← hs']
      revert hs hb
      cases s k <;> simp
    · cases hset : f.setErr with
      | some err => simp [hset] at h
      | none =>
        simp only [hset, Except.ok.injEq, Prod.mk.injEq] at h
        obtain ⟨rfl, rfl⟩ := h
        simp [nonemptyEntry_of_ne_nil he]

theorem step_uplink_eq {i : Integration} (hgeo : i.config.geolocation = true) (s : Store)
    (e : Option GoError) (client : Client) (pl : UplinkEvent) :
    step unmarshal s (.uplink i ⟨{ setErr := e }, client⟩ pl) =
      let b := if i.bufferTTL = 0 then [] else (s (Bytes.copy pl.devEui)).getD []
      if appendRxInfo b pl ≠ [] ∧ i.bufferTTL ≠ 0 ∧ e = none then
        s.set (Bytes.copy pl.devEui) (appendRxInfo b pl)
      else s := by
  have hr : readGeolocBuffer i { setErr := e } s (Bytes.copy pl.devEui) =
      .ok (if i.bufferTTL = 0 then [] else (s (Bytes.copy pl.devEui)).getD []) :=
    readGeolocBuffer_eq_ok.mpr ⟨.inr rfl, rfl⟩
  rw [step, handleUplinkEvent_store, hgeo, if_pos rfl, updateGeolocBuffer, hr]
  exact writeGeolocBuffer_store_eq _

end Invariant

-- ---------------------------------------------------------------------------
-- Stored frames
-- ---------------------------------------------------------------------------

/-- Every stored frame has at least 3 receptions. -/
def StoreFrames (s : Store) : Prop := ∀ d, ∀ f ∈ (s d).getD [], 3 ≤ f.length

theorem StoreFrames.erase {s : Store} (hs : StoreFrames s) (k : EUI64) :
    StoreFrames (s.erase k) := by
  intro d f hf
  simp only [Store.erase_apply] at hf
  split_ifs at hf
  · exact nomatch hf
  · exact hs d f hf

theorem StoreFrames.set {s : Store} {k : EUI64} {v : List Frame} (hs : StoreFrames s)
    (hv : ∀ f ∈ v, 3 ≤ f.length ∨ f ∈ (s k).getD []) : StoreFrames (s.set k v) := by
  intro d f hf
  simp only [Store.set_apply] at hf
  split_ifs at hf with hd
  · subst hd
    exact (hv f hf).elim id (hs _ f)
  · exact hs d f hf

theorem step_storeFrames {unmarshal : String → Except GoError JsonObject} {s : Store}
    (hs : StoreFrames s) (e : Event) : StoreFrames (step unmarshal s e) := by
  cases e with
  | expire d' => exact hs.erase d'
  | uplink i env pl =>
    simp only [step, handleUplinkEvent_store]
    split_ifs
    · split
      · rename_i s' buf hu
        rcases updateGeolocBuffer_store hu with rfl | rfl
        · exact hs
        · exact hs.set (updateGeolocBuffer_frames hu)
      · exact hs
    · exact hs

theorem run_frames (unmarshal : String → Except GoError JsonObject) (evs : List Event) :
    StoreFrames (run unmarshal Store.empty evs) :=
  List.foldlRecOn (motive := StoreFrames) evs _ _ (fun _ _ hf => by simp at hf)
    fun _ hs e _ => step_storeFrames hs e

theorem uplinkIDs_ne_nil {fs : List Frame} (hne : fs ≠ []) (h : ∀ f ∈ fs, 3 ≤ f.length) :
    uplinkIDs fs ≠ [] := by
  obtain ⟨f, rest, rfl⟩ := List.exists_cons_of_ne_nil hne
  have hf : f ≠ [] := fun hf => by simpa [hf] using h f (List.mem_cons_self f rest)
  simp [uplinkIDs, hf]

-- ---------------------------------------------------------------------------
-- Runs
-- ---------------------------------------------------------------------------

/-- In every run of calls with positive TTLs and 8-byte DevEUIs: `d`'s entry is absent or a
non-empty list; it is exactly the frames, oldest first, of `d`'s uplinks with at least 3
receptions whose buffer update completed since the entry last expired; every one of them has
at least 3 receptions; a next call that does not append for `d` leaves the entry unchanged; and
a next call of `d`'s with geolocation on whose update completes leaves the update's store,
hands the updated buffer to `geolocation`, and has it as `d`'s entry. -/
theorem buffer_run_invariant (unmarshal : String → Except GoError JsonObject)
    (evs : List Event) (hwf : ∀ e ∈ evs, e.WellFormed) (d : EUI64) :
    let s := run unmarshal Store.empty evs
    s d ≠ some [] ∧ s d = nonemptyEntry (bufferedSince d evs) ∧
      (∀ f ∈ bufferedSince d evs, 3 ≤ f.length) ∧
      (∀ i env pl, (Event.uplink i env pl).WellFormed → ¬(Event.uplink i env pl).Appends d →
        step unmarshal s (.uplink i env pl) d = s d) ∧
      (∀ i env pl s' buf, (Event.uplink i env pl).WellFormed → i.config.geolocation = true →
        pl.devEui = d.toList →
        updateGeolocBuffer i env.faults s (Bytes.copy pl.devEui) pl = .ok (s', buf) →
        (handleUplinkEvent unmarshal i env s pl).store = s' ∧
          (handleUplinkEvent unmarshal i env s pl).requests =
            (geolocation unmarshal i env.client buf pl).requests ∧
          s' d = nonemptyEntry buf) := by
  intro s
  have hs : s d = nonemptyEntry (bufferedSince d evs) := run_entry hwf
  refine ⟨hs ▸ nonemptyEntry_ne_some_nil _, hs, bufferedSince_frames evs, ?_, ?_⟩
  · intro i env pl he hna
    rw [step_entry he hs, hs]
    simp [bufferedStep, hna]
  · intro i env pl s' buf hwf' hgeo hdev hu
    have hk : Bytes.copy pl.devEui = d := (Bytes.copy_eq_iff hwf'.2 d).mpr hdev
    obtain ⟨hst, hreq⟩ := @handleUplinkEvent_of_update unmarshal _ _ _ _ _ _ hgeo hu
    refine ⟨hst, hreq, hk ▸ updateGeolocBuffer_entry (Int.ne_of_gt hwf'.1) ?_ hu⟩
    rw [hk, hs]
    exact nonemptyEntry_ne_some_nil _

theorem buffer_run_invariant_two_uplinks :
    let rx (n : UInt8) (t : Int) : UplinkRXInfo := ⟨[n, n, n, n, n, n, n, n], [n], 1, 0, none,
      some (.plain t)⟩
    let d : EUI64 := ⟨[1, 2, 3, 4, 5, 6, 7, 8], rfl⟩
    let i : Integration :=
      ⟨{ geolocation := true, geolocationBufferTTL := 60, geolocationMinBufferSize := 2,
         geolocationTDOA := true }, ""⟩
    let pl (rxInfo : Frame) : UplinkEvent :=
      ⟨1, "test-app", "test-device", d.toList, rxInfo, 10, "", []⟩
    let env : CallEnv := ⟨{}, fun _ => ⟨⟨1, 2, 3, .GEO_RESOLVER_TDOA, 10⟩, none⟩⟩
    let evs := [Event.uplink i env (pl [rx 4 444, rx 5 555, rx 6 666]),
      Event.uplink i env (pl [rx 1 111, rx 2 222, rx 3 333])]
    (∀ e ∈ evs, e.WellFormed) ∧
      run (fun _ => .ok []) Store.empty evs d =
        some [[rx 4 444, rx 5 555, rx 6 666], [rx 1 111, rx 2 222, rx 3 333]] := by
  intro rx d i pl env evs
  have hwf : ∀ e ∈ evs, e.WellFormed := by decide
  exact ⟨hwf, (buffer_run_invariant _ evs hwf d).2.1.trans (by decide)⟩

/-- A TTL of 2^55 seconds, whose duration in nanoseconds wraps to 0 in an `int64`: the call
completes its buffer update and hands its frame on, yet the store keeps no entry, although the
frame is buffered since the device's entry last expired. -/
theorem buffer_ttl_wraps_to_zero :
    let rx (n : UInt8) : UplinkRXInfo := ⟨[n, n, n, n, n, n, n, n], [n], 1, 0, none,
      some (.plain 111)⟩
    let f : Frame := [rx 1, rx 2, rx 3]
    let d : EUI64 := ⟨[1, 2, 3, 4, 5, 6, 7, 8], rfl⟩
    let i : Integration :=
      ⟨{ geolocation := true, geolocationBufferTTL := 36028797018963968,
         geolocationTDOA := true }, ""⟩
    let pl : UplinkEvent := ⟨1, "test-app", "test-device", d.toList, f, 10, "", []⟩
    let env : CallEnv := ⟨{}, fun _ => ⟨⟨1, 2, 3, .GEO_RESOLVER_TDOA, 10⟩, none⟩⟩
    0 < i.config.geolocationBufferTTL ∧ i.bufferTTL = 0 ∧
      updateGeolocBuffer i env.faults Store.empty d pl = .ok (Store.empty, [f]) ∧
      run (fun _ => .ok []) Store.empty [.uplink i env pl] d = none ∧
      bufferedSince d [.uplink i env pl] = [f] :=
  ⟨by decide, by decide, rfl, by decide, by decide⟩

/-- Every location event a call emits on a reachable store carries the uplink's identity. A
fix from a TDOA or RSSI request carries the uplink ids of every reception of every frame of
that request, which are never empty, and no frame counter; the request carries the buffer the
update handed on, filtered on fine timestamps for TDOA and whole for RSSI. A fix from a GNSS or
WiFi request carries no uplink ids and the uplink's frame counter. -/
theorem location_event_fields (unmarshal : String → Except GoError JsonObject)
    (evs : List Event) (i : Integration) (env : CallEnv) (pl : UplinkEvent) (ev : LocationEvent)
    (hev : ev ∈ (handleUplinkEvent unmarshal i env (run unmarshal Store.empty evs) pl).events) :
    let s := run unmarshal Store.empty evs
    let buf := appendRxInfo (if i.bufferTTL = 0 then [] else (s (Bytes.copy pl.devEui)).getD []) pl
    ev.applicationId = pl.applicationId ∧ ev.applicationName = pl.applicationName ∧
      ev.deviceName = pl.deviceName ∧ ev.devEui = pl.devEui ∧ ev.tags = pl.tags ∧
      ∃ req, (handleUplinkEvent unmarshal i env s pl).requests = [req] ∧
        match req.frames with
        | some fs => (fs = if req.isTDOA then filterOnFineTimestamp buf 3 else buf) ∧
            ev.uplinkIds = uplinkIDs fs ∧ ev.uplinkIds ≠ [] ∧ ev.fCnt = 0
        | none => ev.uplinkIds = [] ∧ ev.fCnt = pl.fCnt := by
  intro s buf
  obtain ⟨req, loc, hr, hfr, -, rfl⟩ := handleUplinkEvent_mem_events hev
  refine ⟨rfl, rfl, rfl, rfl, rfl, req, hr, ?_⟩
  cases hf : req.frames with
  | none => simp [locationEvent, uplinkIDs]
  | some fs =>
    obtain ⟨hne, hall⟩ := hfr fs hf
    have hids := uplinkIDs_ne_nil hne fun g hg =>
      (hall g hg).elim id (run_frames unmarshal evs _ g)
    exact ⟨handleUplinkEvent_framesFrom req (hr ▸ List.mem_singleton_self req) fs hf,
      by simp [locationEvent, hids]⟩

theorem location_event_fields_tdoa :
    let rx (n : UInt8) (t : Int) : UplinkRXInfo := ⟨[n, n, n, n, n, n, n, n], [n], 1, 0, none,
      some (.plain t)⟩
    let i : Integration :=
      ⟨{ geolocation := true, geolocationBufferTTL := 60, geolocationTDOA := true }, ""⟩
    let pl (rxInfo : Frame) : UplinkEvent :=
      ⟨1, "test-app", "test-device", [1, 2, 3, 4, 5, 6, 7, 8], rxInfo, 10, "", []⟩
    let loc : Location := ⟨1, 2, 3, .GEO_RESOLVER_TDOA, 10⟩
    let env : CallEnv := ⟨{}, fun _ => ⟨loc, none⟩⟩
    let evs := [Event.uplink i env (pl [rx 4 444, rx 5 555, rx 6 666])]
    let ev := locationEvent (pl [rx 1 111, rx 2 222, rx 3 333]) [[4], [5], [6], [1], [2], [3]] loc
    ev ∈ (handleUplinkEvent (fun _ => .ok []) i env (run (fun _ => .ok []) Store.empty evs)
        (pl [rx 1 111, rx 2 222, rx 3 333])).events ∧
      ev.applicationId = 1 ∧ ev.fCnt = 0 := by
  intro rx i pl loc env evs ev
  have hev : ev ∈ (handleUplinkEvent (fun _ => .ok []) i env
      (run (fun _ => .ok []) Store.empty evs) (pl [rx 1 111, rx 2 222, rx 3 333])).events := by
    decide
  exact ⟨hev, (location_event_fields (fun _ => .ok []) evs i env _ ev hev).1, rfl⟩

/-- In every run of calls with positive TTLs and 8-byte DevEUIs, `d`'s buffer holds each frame
as many times as calls of `d`'s carrying it completed their buffer update since the entry last
expired; so it holds no frame twice unless two such calls carried it. -/
theorem buffer_count_completed (unmarshal : String → Except GoError JsonObject)
    (evs : List Event) (hwf : ∀ e ∈ evs, e.WellFormed) (d : EUI64) :
    (∀ f : Frame, ((run unmarshal Store.empty evs d).getD []).count f =
        (bufferedSince d evs).count f) ∧
      ((bufferedSince d evs).Nodup → ((run unmarshal Store.empty evs d).getD []).Nodup) := by
  rw [run_entry hwf, nonemptyEntry_getD]
  exact ⟨fun _ => rfl, id⟩

/-- A TDOA uplink whose resolver call fails after the buffer was saved: the call returns an
error, the dispatcher delivers the uplink again, and the buffer then holds its frame twice; the
second call sends a multi-frame request repeating every reception. -/
theorem redelivery_duplicates_frame :
    let rx (n : UInt8) : UplinkRXInfo := ⟨[n, n, n, n, n, n, n, n], [n], 1, 0, none,
      some (.plain 111)⟩
    let f : Frame := [rx 1, rx 2, rx 3]
    let d : EUI64 := ⟨[1, 2, 3, 4, 5, 6, 7, 8], rfl⟩
    let i : Integration :=
      ⟨{ geolocation := true, geolocationBufferTTL := 60, geolocationTDOA := true }, ""⟩
    let pl : UplinkEvent := ⟨1, "test-app", "test-device", d.toList, f, 10, "", []⟩
    let down : CallEnv := ⟨{}, fun _ => ⟨⟨0, 0, 0, .UNKNOWN, 0⟩, some (.msg "connection refused")⟩⟩
    let up : CallEnv := ⟨{}, fun _ => ⟨⟨1, 2, 3, .GEO_RESOLVER_TDOA, 10⟩, none⟩⟩
    let u : String → Except GoError JsonObject := fun _ => .ok []
    (handleUplinkEvent u i down Store.empty pl).result =
        .error (.wrap "geolocation error" (.wrap "geolocation error" (.msg "connection refused"))) ∧
      run u Store.empty [.uplink i down pl, .uplink i up pl] d = some [f, f] ∧
      (handleUplinkEvent u i up (run u Store.empty [.uplink i down pl]) pl).requests =
        [.tdoaMultiFrame [f, f]] :=
  ⟨rfl, by decide, by decide⟩

theorem buffer_count_completed_redelivery :
    let rx (n : UInt8) : UplinkRXInfo := ⟨[n, n, n, n, n, n, n, n], [n], 1, 0, none,
      some (.plain 111)⟩
    let f : Frame := [rx 1, rx 2, rx 3]
    let d : EUI64 := ⟨[1, 2, 3, 4, 5, 6, 7, 8], rfl⟩
    let i : Integration :=
      ⟨{ geolocation := true, geolocationBufferTTL := 60, geolocationTDOA := true }, ""⟩
    let pl : UplinkEvent := ⟨1, "test-app", "test-device", d.toList, f, 10, "", []⟩
    let down : CallEnv := ⟨{}, fun _ => ⟨⟨0, 0, 0, .UNKNOWN, 0⟩, some (.msg "connection refused")⟩⟩
    let up : CallEnv := ⟨{}, fun _ => ⟨⟨1, 2, 3, .GEO_RESOLVER_TDOA, 10⟩, none⟩⟩
    let evs := [Event.uplink i down pl, Event.uplink i up pl]
    (∀ e ∈ evs, e.WellFormed) ∧
      ((run (fun _ => .ok []) Store.empty evs d).getD []).count f = (bufferedSince d evs).count f := by
  intro rx f d i pl down up evs
  have hwf : ∀ e ∈ evs, e.WellFormed := by decide
  exact ⟨hwf, (buffer_count_completed _ evs hwf d).1 f⟩

/-- The resolver's view of a run: on every store that a run of calls with positive TTLs and
8-byte DevEUIs reaches, a next call with geolocation on and a positive TTL, which the store
answers and whose enabled extractors succeed, sends exactly the request the priority rule picks
over the device's history: the frames buffered since its entry last expired, then the uplink's
own frame when at least 3 gateways received it. -/
theorem handleUplinkEvent_run_requests (unmarshal : String → Except GoError JsonObject)
    (evs : List Event) (hwf : ∀ e ∈ evs, e.WellFormed) (i : Integration) (env : CallEnv)
    (pl : UplinkEvent) (hgeo : i.config.geolocation = true)
    (httl : 0 < i.bufferTTL) (hget : env.faults.getErr = none)
    (hset : env.faults.setErr = none) (bytes : List UInt8) (aps : List WifiAccessPoint)
    (hg : i.config.geolocationGNSS = true → getBytesFromJSONObject unmarshal
      i.config.geolocationGNSSPayloadField pl.objectJson = .ok bytes)
    (hw : i.config.geolocationWifi = true → getWifiAccessPointsFromJSONObject unmarshal
      i.config.geolocationWifiPayloadField pl.objectJson = .ok aps) :
    (handleUplinkEvent unmarshal i env (run unmarshal Store.empty evs) pl).requests =
      (selectCall i.config (appendRxInfo (bufferedSince (Bytes.copy pl.devEui) evs) pl) pl
        bytes aps).toList := by
  have hs : (run unmarshal Store.empty evs (Bytes.copy pl.devEui)).getD [] =
      bufferedSince (Bytes.copy pl.devEui) evs := by
    rw [run_entry hwf, nonemptyEntry_getD]
  obtain ⟨s', hu⟩ : ∃ s', updateGeolocBuffer i env.faults (run unmarshal Store.empty evs)
      (Bytes.copy pl.devEui) pl =
        .ok (s', appendRxInfo (bufferedSince (Bytes.copy pl.devEui) evs) pl) := by
    rw [updateGeolocBuffer_eq (Int.ne_of_gt httl), hs]
    simp only [hget, hset]
    split_ifs with he
    · exact ⟨_, by rw [he]⟩
    · exact ⟨_, rfl⟩
  rw [(handleUplinkEvent_of_update hgeo hu).2, geolocation_requests hg hw]

theorem handleUplinkEvent_run_requests_tdoa :
    let rx (n : UInt8) (t : Int) : UplinkRXInfo := ⟨[n, n, n, n, n, n, n, n], [n], 1, 0, none,
      some (.plain t)⟩
    let i : Integration :=
      ⟨{ geolocation := true, geolocationBufferTTL := 60, geolocationMinBufferSize := 2,
         geolocationTDOA := true }, ""⟩
    let pl (rxInfo : Frame) : UplinkEvent :=
      ⟨1, "test-app", "test-device", [1, 2, 3, 4, 5, 6, 7, 8], rxInfo, 10, "", []⟩
    let env : CallEnv := ⟨{}, fun _ => ⟨⟨1, 2, 3, .GEO_RESOLVER_TDOA, 10⟩, none⟩⟩
    let f₁ : Frame := [rx 4 444, rx 5 555, rx 6 666]
    let f₂ : Frame := [rx 1 111, rx 2 222, rx 3 333]
    (handleUplinkEvent (fun _ => .ok []) i env
        (run (fun _ => .ok []) Store.empty [.uplink i env (pl f₁)]) (pl f₂)).requests =
      [.tdoaMultiFrame [f₁, f₂]] := by
  intro rx i pl env f₁ f₂
  rw [handleUplinkEvent_run_requests (fun _ => .ok []) [.uplink i env (pl f₁)] (by decide) i env
    (pl f₂) rfl (by decide) rfl rfl [] [] (fun h => nomatch h) (fun h => nomatch h)]
  decide

end LoraCloud
