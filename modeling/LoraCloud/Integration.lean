import LoraCloud.Geolocation
import Mathlib.Tactic.LinearCombination

/-!
# Handling an uplink

`handleUplinkEvent` with geolocation on: update the device's geolocation buffer in the store,
run `geolocation` on it, and hand a location event to the integrations when a location comes
back. A failed buffer update or a geolocation error is returned, wrapped; a failure of the
integrations that receive the event is only logged.

The store is a map from device to buffer, shared by all calls; `GetGeolocBuffer` and
`SaveGeolocBuffer` are modelled from the spec. Both get the TTL as the code computes it,
`time.Duration(TTL)*time.Second` in an `int64` (`Integration.bufferTTL`), which is 0, so that
the store is not used, for a TTL of 0 and also for every multiple of 2^55 seconds. What the
store answers a call (`StoreFaults`) and how the resolver behaves (`Client`) are the call's
environment.

The main lemmas: a call's effect on the store (`handleUplinkEvent_store`), and the shape of
what it sends and emits (`handleUplinkEvent_sent`): no request and no event, or one request
whose answer the strategy wrapper reads, and at most one event, carrying the uplink's identity
and that answer's location. Every error a call returns is the store's or the resolver's, with
its context (`handleUplinkEvent_error`); the WiFi wrapper makes a location event out of a
resolver error (`handleUplinkEvent_wifi_error`).
-/

namespace LoraCloud

/-- The store as the integration uses it: each device's geolocation buffer, if it has one. -/
abbrev Store := EUI64 → Option (List Frame)

def Store.empty : Store := fun _ => none

def Store.set (s : Store) (d : EUI64) (v : List Frame) : Store :=
  fun d' => if d' = d then some v else s d'

def Store.erase (s : Store) (d : EUI64) : Store := fun d' => if d' = d then none else s d'

@[simp] theorem Store.empty_apply (d : EUI64) : Store.empty d = none := rfl

@[simp] theorem Store.set_apply (s : Store) (d d' : EUI64) (v : List Frame) :
    s.set d v d' = if d' = d then some v else s d' := rfl

@[simp] theorem Store.erase_apply (s : Store) (d d' : EUI64) :
    s.erase d d' = if d' = d then none else s d' := rfl

theorem Store.ite_set_apply_of_ne {c : Prop} [Decidable c] {s : Store} {k d : EUI64}
    {v : List Frame} (h : k ≠ d) : (if c then s.set k v else s) d = s d := by
  split_ifs <;> simp [Ne.symm h]

/-- `time.Duration(i.config.GeolocationBufferTTL)*time.Second`, the TTL handed to the store:
nanoseconds in an `int64`, wrapping as Go's multiplication does. -/
def Integration.bufferTTL (i : Integration) : Int :=
  Int.bmod (i.config.geolocationBufferTTL * 1000000000) 18446744073709551616

theorem Integration.bufferTTL_bmod (i : Integration) :
    i.bufferTTL =
      if i.config.geolocationBufferTTL * 1000000000 % 18446744073709551616 < 9223372036854775808
      then i.config.geolocationBufferTTL * 1000000000 % 18446744073709551616
      else i.config.geolocationBufferTTL * 1000000000 % 18446744073709551616 -
        18446744073709551616 :=
  Int.bmod_def _ _

theorem Integration.bufferTTL_eq (i : Integration) (h0 : 0 ≤ i.config.geolocationBufferTTL)
    (h1 : i.config.geolocationBufferTTL ≤ 9223372036) :
    i.bufferTTL = i.config.geolocationBufferTTL * 1000000000 := by
  have hm : i.config.geolocationBufferTTL * 1000000000 % 18446744073709551616 =
      i.config.geolocationBufferTTL * 1000000000 := Int.emod_eq_of_lt (by omega) (by omega)
  rw [Integration.bufferTTL_bmod, hm, if_pos (by omega)]

theorem dvd_mul_nanos {x : Int} :
    18446744073709551616 ∣ x * 1000000000 ↔ 36028797018963968 ∣ x := by
  constructor
  · rintro ⟨k, hk⟩
    have hk' : x * 1953125 = 36028797018963968 * k :=
      Int.eq_of_mul_eq_mul_left (by decide : (512 : Int) ≠ 0) (by linear_combination hk)
    -- 5^9 is invertible modulo 2^55: -1095668 * 2^55 + 20211507185753197 * 5^9 = 1
    exact ⟨-1095668 * x + 20211507185753197 * k, by linear_combination 20211507185753197 * hk'⟩
  · rintro ⟨k, rfl⟩
    exact ⟨k * 1953125, by ring⟩

theorem Integration.bufferTTL_eq_zero_iff (i : Integration) :
    i.bufferTTL = 0 ↔ 36028797018963968 ∣ i.config.geolocationBufferTTL := by
  rw [Integration.bufferTTL_bmod, ← dvd_mul_nanos, Int.dvd_iff_emod_eq_zero]
  have hr := Int.emod_nonneg (i.config.geolocationBufferTTL * 1000000000)
    (b := 18446744073709551616) (by decide)
  have hr' := Int.emod_lt_of_pos (i.config.geolocationBufferTTL * 1000000000)
    (b := 18446744073709551616) (by decide)
  generalize i.config.geolocationBufferTTL * 1000000000 % 18446744073709551616 = r at *
  split <;> omega

/-- The duration handed to the store is 0, so that the store is not used, exactly when the TTL
is a multiple of 2^55 seconds: 0, but also 2^55 s, about 1.1 billion years, and every multiple
of it. Up to 9223372036 s, about 292 years, it is the TTL in nanoseconds. -/
theorem Integration.bufferTTL_spec (i : Integration) :
    (i.bufferTTL = 0 ↔ 36028797018963968 ∣ i.config.geolocationBufferTTL) ∧
      (0 ≤ i.config.geolocationBufferTTL → i.config.geolocationBufferTTL ≤ 9223372036 →
        i.bufferTTL = i.config.geolocationBufferTTL * 1000000000) :=
  ⟨i.bufferTTL_eq_zero_iff, i.bufferTTL_eq⟩

/-- How the store answers this call's read and write: `none` is success. -/
structure StoreFaults where
  getErr : Option GoError := none
  setErr : Option GoError := none
  deriving DecidableEq, Repr

/-- `GetGeolocBuffer`, modelled from the spec. It reads the device's buffer, an absent or expired one being empty; with a TTL of 0 the buffer
holds a single frame only, so there is nothing to read. -/
def getGeolocBuffer (f : StoreFaults) (s : Store) (devEUI : EUI64) (ttl : Int) :
    Except GoError (List Frame) :=
  if ttl = 0 then .ok []
  else
    match f.getErr with
    | some err => .error err
    | none => .ok ((s devEUI).getD [])

/-- `SaveGeolocBuffer`, modelled from the spec. It writes the device's buffer and refreshes its TTL; an empty buffer, or a TTL of 0, is not
saved. -/
def saveGeolocBuffer (f : StoreFaults) (s : Store) (devEUI : EUI64) (items : List Frame)
    (ttl : Int) : Except GoError Store :=
  if ttl = 0 ∨ items = [] then .ok s
  else
    match f.setErr with
    | some err => .error err
    | none => .ok (s.set devEUI items)

/-- The buffer after an uplink: its receptions are appended when at least 3 gateways
received it. -/
def appendRxInfo (geolocBuffer : List Frame) (pl : UplinkEvent) : List Frame :=
  if 3 ≤ pl.rxInfo.length then geolocBuffer ++ [pl.rxInfo] else geolocBuffer

/-- The read half of `updateGeolocBuffer`. -/
def readGeolocBuffer (i : Integration) (f : StoreFaults) (s : Store) (devEUI : EUI64) :
    Except GoError (List Frame) :=
  match getGeolocBuffer f s devEUI i.bufferTTL with
  | .error err => .error (.wrap "get geoloc buffer error" err)
  | .ok geolocBuffer => .ok geolocBuffer

/-- The write half of `updateGeolocBuffer`: append the uplink, save a non-empty buffer. -/
def writeGeolocBuffer (i : Integration) (f : StoreFaults) (s : Store) (devEUI : EUI64)
    (geolocBuffer : List Frame) (pl : UplinkEvent) : Except GoError (Store × List Frame) :=
  let geolocBuffer := appendRxInfo geolocBuffer pl
  if geolocBuffer.length ≠ 0 then
    match saveGeolocBuffer f s devEUI geolocBuffer i.bufferTTL with
    | .error err => .error (.wrap "save geoloc buffer error" err)
    | .ok s' => .ok (s', geolocBuffer)
  else .ok (s, geolocBuffer)

def updateGeolocBuffer (i : Integration) (f : StoreFaults) (s : Store) (devEUI : EUI64)
    (pl : UplinkEvent) : Except GoError (Store × List Frame) :=
  match readGeolocBuffer i f s devEUI with
  | .error err => .error err
  | .ok geolocBuffer => writeGeolocBuffer i f s devEUI geolocBuffer pl

/-- The environment of one call: how the store answers it, and how the resolver behaves. -/
structure CallEnv where
  faults : StoreFaults
  client : Client

/-- What one call leaves behind: the store, the requests it sent to the resolver, the location
events it handed to the integrations, and its result. -/
structure Handled where
  store : Store
  requests : List ResolverCall
  events : List LocationEvent
  result : Except GoError Unit

/-- The location event for a fix; `FCnt` is set only when no uplink ids are given. -/
def locationEvent (pl : UplinkEvent) (uplinkIDs : List (List UInt8)) (loc : Location) :
    LocationEvent :=
  { applicationId := pl.applicationId
    applicationName := pl.applicationName
    deviceName := pl.deviceName
    devEui := pl.devEui
    tags := pl.tags
    location := loc
    uplinkIds := uplinkIDs
    fCnt := if uplinkIDs.length = 0 then pl.fCnt else 0 }

/-- `HandleUplinkEvent`. -/
def handleUplinkEvent (unmarshal : String → Except GoError JsonObject) (i : Integration)
    (env : CallEnv) (s : Store) (pl : UplinkEvent) : Handled :=
  let devEUI : EUI64 := Bytes.copy pl.devEui
  if i.config.geolocation then
    match updateGeolocBuffer i env.faults s devEUI pl with
    | .error err => ⟨s, [], [], .error (.wrap "update geolocation buffer error" err)⟩
    | .ok (s', geolocBuffer) =>
      let g := geolocation unmarshal i env.client geolocBuffer pl
      match g.value with
      | .error err => ⟨s', g.requests, [], .error (.wrap "geolocation error" err)⟩
      | .ok (uplinkIDs, loc) =>
        ⟨s', g.requests, (loc.map (locationEvent pl uplinkIDs)).toList, .ok ()⟩
  else ⟨s, [], [], .ok ()⟩

-- ---------------------------------------------------------------------------
-- The buffer update
-- ---------------------------------------------------------------------------

section Update

variable {i : Integration} {f : StoreFaults} {s : Store} {k : EUI64} {pl : UplinkEvent}

/-- With a TTL other than 0: read the entry, append the uplink, save when non-empty. -/
theorem updateGeolocBuffer_eq (h0 : i.bufferTTL ≠ 0) :
    updateGeolocBuffer i f s k pl =
      match f.getErr with
      | some err => .error (.wrap "get geoloc buffer error" err)
      | none =>
        if appendRxInfo ((s k).getD []) pl = [] then .ok (s, [])
        else
          match f.setErr with
          | some err => .error (.wrap "save geoloc buffer error" err)
          | none => .ok (s.set k (appendRxInfo ((s k).getD []) pl),
              appendRxInfo ((s k).getD []) pl) := by
  cases hg : f.getErr with
  | some err => simp [updateGeolocBuffer, readGeolocBuffer, getGeolocBuffer, h0, hg]
  | none =>
    by_cases he : appendRxInfo ((s k).getD []) pl = []
    · simp [updateGeolocBuffer, readGeolocBuffer, getGeolocBuffer, writeGeolocBuffer, h0, hg, he]
    · cases hs : f.setErr <;>
        simp [updateGeolocBuffer, readGeolocBuffer, getGeolocBuffer, writeGeolocBuffer,
          saveGeolocBuffer, h0, hg, he, hs]

theorem updateGeolocBuffer_buffer {s' : Store} {buf : List Frame}
    (h : updateGeolocBuffer i f s k pl = .ok (s', buf)) :
    buf = appendRxInfo (if i.bufferTTL = 0 then [] else (s k).getD []) pl := by
  by_cases h0 : i.bufferTTL = 0
  · simp only [updateGeolocBuffer, readGeolocBuffer, getGeolocBuffer, writeGeolocBuffer,
      saveGeolocBuffer, h0, if_true, true_or] at h
    split_ifs at h <;> simp_all
  · rw [updateGeolocBuffer_eq h0] at h
    rw [if_neg h0]
    cases hg : f.getErr with
    | some err => simp [hg] at h
    | none =>
      simp only [hg] at h
      split_ifs at h with he
      · simp_all
      · cases hs : f.setErr <;> simp_all

theorem uplinkIDs_appendRxInfo_sublist (c : Prop) [Decidable c] (b : List Frame) :
    (uplinkIDs (appendRxInfo (if c then [] else b) pl)).Sublist (uplinkIDs (b ++ [pl.rxInfo])) := by
  have hb : (uplinkIDs (if c then [] else b)).Sublist (uplinkIDs b) := by
    split_ifs <;> simp [uplinkIDs]
  generalize (if c then [] else b) = b' at hb
  rw [uplinkIDs_append, appendRxInfo]
  split_ifs
  · rw [uplinkIDs_append]
    exact hb.append (List.Sublist.refl _)
  · exact hb.trans (List.sublist_append_left _ _)

theorem writeGeolocBuffer_outcome {f' : StoreFaults} {s' : Store} {k' : EUI64} (b : List Frame)
    (hf : f.setErr = f'.setErr) :
    (writeGeolocBuffer i f s k b pl).map Prod.snd = (writeGeolocBuffer i f' s' k' b pl).map Prod.snd := by
  unfold writeGeolocBuffer saveGeolocBuffer
  rw [hf]
  dsimp only
  split_ifs <;> try rfl
  cases f'.setErr <;> rfl

theorem updateGeolocBuffer_ttl_zero (h0 : i.bufferTTL = 0) :
    updateGeolocBuffer i f s k pl = .ok (s, appendRxInfo [] pl) := by
  simp only [updateGeolocBuffer, readGeolocBuffer, getGeolocBuffer, writeGeolocBuffer,
    saveGeolocBuffer, h0, true_or, if_true]
  split_ifs <;> rfl

theorem readGeolocBuffer_ok {buf : List Frame} (h : readGeolocBuffer i f s k = .ok buf) :
    buf = [] ∨ buf = (s k).getD [] := by
  unfold readGeolocBuffer getGeolocBuffer at h
  split_ifs at h
  · exact .inl (Except.ok.inj h).symm
  · cases hg : f.getErr <;> simp_all

theorem updateGeolocBuffer_error {e : GoError} (h : updateGeolocBuffer i f s k pl = .error e) :
    (∃ err, f.getErr = some err ∧ e = .wrap "get geoloc buffer error" err) ∨
      (∃ err, f.setErr = some err ∧ e = .wrap "save geoloc buffer error" err) := by
  by_cases h0 : i.bufferTTL = 0
  · simp only [updateGeolocBuffer, readGeolocBuffer, getGeolocBuffer, writeGeolocBuffer,
      saveGeolocBuffer, h0, if_true, true_or] at h
    split_ifs at h
  rw [updateGeolocBuffer_eq h0] at h
  cases hg : f.getErr with
  | some err => exact .inl ⟨err, rfl, by simpa [hg, eq_comm] using h⟩
  | none =>
    simp only [hg] at h
    split_ifs at h
    cases hs : f.setErr with
    | some err => exact .inr ⟨err, rfl, by simpa [hs, eq_comm] using h⟩
    | none => simp [hs] at h

theorem writeGeolocBuffer_ok {buf v : List Frame} {s' : Store}
    (h : writeGeolocBuffer i f s k buf pl = .ok (s', v)) :
    v = appendRxInfo buf pl ∧ (s' = s ∨ v ≠ [] ∧ s' = s.set k v) := by
  unfold writeGeolocBuffer saveGeolocBuffer at h
  cases hs : f.setErr <;> simp only [hs] at h <;> split_ifs at h with hne <;>
    simp only [Except.ok.injEq, Prod.mk.injEq, reduceCtorEq] at h
  all_goals obtain ⟨rfl, rfl⟩ := h
  all_goals first
    | exact ⟨rfl, .inl rfl⟩
    | exact ⟨rfl, .inr ⟨fun h => hne (by simp [h]), rfl⟩⟩

theorem updateGeolocBuffer_store {s' : Store} {buf : List Frame}
    (h : updateGeolocBuffer i f s k pl = .ok (s', buf)) : s' = s ∨ s' = s.set k buf := by
  unfold updateGeolocBuffer at h
  split at h
  · exact nomatch h
  · exact (writeGeolocBuffer_ok h).2.imp id And.right

theorem appendRxInfo_eq_nil {b : List Frame} (h : appendRxInfo b pl = []) : b = [] := by
  unfold appendRxInfo at h
  split_ifs at h
  · simp at h
  · exact h

theorem updateGeolocBuffer_frames {s' : Store} {buf : List Frame}
    (h : updateGeolocBuffer i f s k pl = .ok (s', buf)) :
    ∀ g ∈ buf, 3 ≤ g.length ∨ g ∈ (s k).getD [] := by
  rw [updateGeolocBuffer_buffer h]
  generalize hb : (if i.bufferTTL = 0 then [] else (s k).getD []) = base
  have hbase : ∀ g ∈ base, g ∈ (s k).getD [] := by
    subst hb
    split_ifs <;> simp
  intro g hg
  unfold appendRxInfo at hg
  split_ifs at hg with h3
  · rcases List.mem_append.mp hg with hg | hg
    · exact .inr (hbase g hg)
    · rw [List.mem_singleton.mp hg]
      exact .inl h3
  · exact .inr (hbase g hg)

theorem readGeolocBuffer_eq_ok {b : List Frame} :
    readGeolocBuffer i f s k = .ok b ↔
      (i.bufferTTL = 0 ∨ f.getErr = none) ∧
        b = if i.bufferTTL = 0 then [] else (s k).getD [] := by
  unfold readGeolocBuffer getGeolocBuffer
  by_cases h0 : i.bufferTTL = 0
  · simp [h0, List.nil_eq]
  · cases f.getErr <;> simp [h0, eq_comm]

theorem writeGeolocBuffer_store_eq (b : List Frame) :
    (match writeGeolocBuffer i f s k b pl with
      | .ok (s', _) => s'
      | .error _ => s) =
      if appendRxInfo b pl ≠ [] ∧ i.bufferTTL ≠ 0 ∧ f.setErr = none then
        s.set k (appendRxInfo b pl)
      else s := by
  unfold writeGeolocBuffer saveGeolocBuffer
  by_cases he : appendRxInfo b pl = []
  · simp [he]
  by_cases h0 : i.bufferTTL = 0
  · simp [he, h0]
  · cases f.setErr <;> simp [he, h0]

end Update

-- ---------------------------------------------------------------------------
-- One call
-- ---------------------------------------------------------------------------

section Call

variable {unmarshal : String → Except GoError JsonObject} {i : Integration} {env : CallEnv}
  {s : Store} {pl : UplinkEvent}

/-- A call changes the store only through a completed buffer update. -/
theorem handleUplinkEvent_store :
    (handleUplinkEvent unmarshal i env s pl).store =
      if i.config.geolocation = true then
        match updateGeolocBuffer i env.faults s (Bytes.copy pl.devEui) pl with
        | .ok (s', _) => s'
        | .error _ => s
      else s := by
  cases hgeo : i.config.geolocation
  · simp [handleUplinkEvent, hgeo]
  · cases hu : updateGeolocBuffer i env.faults s (Bytes.copy pl.devEui) pl with
    | error err => simp [handleUplinkEvent, hgeo, hu]
    | ok r =>
      simp only [handleUplinkEvent, hgeo, hu, if_true]
      split <;> rfl

theorem handleUplinkEvent_store_apply (h0 : i.bufferTTL ≠ 0) (d : EUI64) :
    (handleUplinkEvent unmarshal i env s pl).store d =
      if i.config.geolocation = true ∧ Bytes.copy pl.devEui = d ∧ env.faults.getErr = none ∧
          env.faults.setErr = none ∧ appendRxInfo ((s d).getD []) pl ≠ [] then
        some (appendRxInfo ((s d).getD []) pl)
      else s d := by
  rw [handleUplinkEvent_store, updateGeolocBuffer_eq h0]
  cases hgeo : i.config.geolocation
  · simp
  cases hg : env.faults.getErr
  · by_cases he : appendRxInfo ((s (Bytes.copy pl.devEui)).getD []) pl = []
    · by_cases hk : Bytes.copy pl.devEui = d
      · subst hk; simp [he]
      · simp [he, hk]
    · cases hs : env.faults.setErr
      · by_cases hk : Bytes.copy pl.devEui = d
        · subst hk; simp [he]
        · simp [he, hk, Ne.symm hk]
      · simp [he]
  · simp

theorem handleUplinkEvent_of_update {s' : Store} {buf : List Frame}
    (hgeo : i.config.geolocation = true)
    (h : updateGeolocBuffer i env.faults s (Bytes.copy pl.devEui) pl = .ok (s', buf)) :
    (handleUplinkEvent unmarshal i env s pl).store = s' ∧
      (handleUplinkEvent unmarshal i env s pl).requests =
        (geolocation unmarshal i env.client buf pl).requests := by
  unfold handleUplinkEvent
  simp only [hgeo, if_true, h]
  split <;> exact ⟨rfl, rfl⟩

/-- What a call sends and emits: nothing, or one request whose answer the strategy wrapper
reads. An error is returned, with no event; no location is a success, with no event; a
location is one event, carrying it with the ids of the frames the request carried. A TDOA or
RSSI request carries at least one frame, each with 3 receptions or more, or stored for the
device. -/
theorem handleUplinkEvent_sent :
    let h := handleUplinkEvent unmarshal i env s pl
    (h.requests = [] ∧ h.events = []) ∨
      ∃ req, h.requests = [req] ∧
        (∀ fs, req.frames = some fs →
          fs ≠ [] ∧ ∀ g ∈ fs, 3 ≤ g.length ∨ g ∈ (s (Bytes.copy pl.devEui)).getD []) ∧
        match readAnswer req (env.client req) with
        | .error e => h.result = .error (.wrap "geolocation error" e) ∧ h.events = []
        | .ok none => h.result = .ok () ∧ h.events = []
        | .ok (some loc) => h.result = .ok () ∧
            h.events = [locationEvent pl (uplinkIDs (req.frames.getD [])) loc] := by
  cases hgeo : i.config.geolocation
  · exact .inl (by simp [handleUplinkEvent, hgeo])
  cases hu : updateGeolocBuffer i env.faults s (Bytes.copy pl.devEui) pl with
  | error err => exact .inl (by simp [handleUplinkEvent, hgeo, hu])
  | ok r =>
    obtain ⟨s', buf⟩ := r
    rcases geolocation_shaped unmarshal i env.client buf pl with hg | ⟨req, hg, hfr⟩
    · exact .inl (by simp [handleUplinkEvent, hgeo, hu, hg])
    · refine .inr ⟨req, ?_, fun fs hfs => ?_, ?_⟩
      · simp only [handleUplinkEvent, hgeo, hu, hg, if_true]
        split <;> rfl
      · obtain ⟨hne, hall⟩ := hfr fs hfs
        refine ⟨hne, fun g hgm => ?_⟩
        rcases hall g hgm with h3 | hb
        · exact .inl h3
        · exact updateGeolocBuffer_frames hu g hb
      · cases ha : readAnswer req (env.client req) with
        | error e => simp [handleUplinkEvent, hgeo, hu, hg, ha, Except.map]
        | ok loc => cases loc <;> simp [handleUplinkEvent, hgeo, hu, hg, ha, Except.map]

theorem handleUplinkEvent_mem_events {ev : LocationEvent}
    (hev : ev ∈ (handleUplinkEvent unmarshal i env s pl).events) :
    ∃ req loc, (handleUplinkEvent unmarshal i env s pl).requests = [req] ∧
      (∀ fs, req.frames = some fs →
        fs ≠ [] ∧ ∀ g ∈ fs, 3 ≤ g.length ∨ g ∈ (s (Bytes.copy pl.devEui)).getD []) ∧
      readAnswer req (env.client req) = .ok (some loc) ∧
      ev = locationEvent pl (uplinkIDs (req.frames.getD [])) loc := by
  rcases @handleUplinkEvent_sent unmarshal i env s pl with ⟨-, he⟩ | ⟨req, hr, hfr, hm⟩
  · simp [he] at hev
  split at hm
  · simp [hm.2] at hev
  · simp [hm.2] at hev
  · rename_i loc ha
    exact ⟨req, loc, hr, hfr, ha, List.mem_singleton.mp (hm.2 ▸ hev)⟩

/-- A call's TDOA request carries the buffer its update handed on, filtered on fine
timestamps, and its RSSI request that whole buffer: the stored frames (none with a TTL of 0)
and the uplink's own when at least 3 gateways received it. -/
theorem handleUplinkEvent_framesFrom :
    FramesFrom (appendRxInfo (if i.bufferTTL = 0 then [] else (s (Bytes.copy pl.devEui)).getD []) pl)
      (handleUplinkEvent unmarshal i env s pl).requests := by
  cases hgeo : i.config.geolocation
  · intro req hreq
    simp [handleUplinkEvent, hgeo] at hreq
  cases hu : updateGeolocBuffer i env.faults s (Bytes.copy pl.devEui) pl with
  | error err =>
    intro req hreq
    simp [handleUplinkEvent, hgeo, hu] at hreq
  | ok r =>
    rw [(handleUplinkEvent_of_update hgeo hu).2, ← updateGeolocBuffer_buffer hu]
    exact geolocationWith_framesFrom _ _ _ _ _ _

/-- Except for a WiFi request, a call returns the resolver's errors other than `ErrNoLocation`
and emits nothing; on `ErrNoLocation` it succeeds and emits nothing; and every event it emits
carries the location the resolver returned, with no error unless the request was WiFi. -/
theorem handleUplinkEvent_resolver_answer {req : ResolverCall}
    (hreq : (handleUplinkEvent unmarshal i env s pl).requests = [req]) :
    let h := handleUplinkEvent unmarshal i env s pl
    ((env.client req).err = some .noLocation → h.result = .ok () ∧ h.events = []) ∧
    (∀ err, (env.client req).err = some err → err ≠ .noLocation → req.isWifi = false →
      h.result = .error (.wrap "geolocation error" (.wrap "geolocation error" err)) ∧
        h.events = []) ∧
    (∀ ev ∈ h.events, ev.location = (env.client req).loc ∧
      ((env.client req).err = none ∨ req.isWifi = true)) := by
  rcases @handleUplinkEvent_sent unmarshal i env s pl with ⟨hr, -⟩ | ⟨req', hr, -, hm⟩
  · simp [hr] at hreq
  obtain rfl : req' = req := List.singleton_inj.mp (hr.symm.trans hreq)
  obtain ⟨hnl, herr, hloc⟩ := readAnswer_cases req' (env.client req')
  refine ⟨fun h => by rwa [hnl h] at hm, fun err h hn hw => by rwa [herr err h hn hw] at hm,
    fun ev hev => ?_⟩
  obtain ⟨req'', loc, hr'', -, ha, rfl⟩ := handleUplinkEvent_mem_events hev
  obtain rfl : req'' = req' := List.singleton_inj.mp (hr''.symm.trans hr)
  exact hloc loc ha

/-- Every error a call returns comes from the store, which it leaves as it was, or from the
resolver on a request other than WiFi, and names where it arose; the call emits no event. No
error of the device's object reaches the caller. -/
theorem handleUplinkEvent_error {e : GoError}
    (herr : (handleUplinkEvent unmarshal i env s pl).result = .error e) :
    let h := handleUplinkEvent unmarshal i env s pl
    h.events = [] ∧
      ((h.store = s ∧ h.requests = [] ∧
        ((∃ err, env.faults.getErr = some err ∧
            e = .wrap "update geolocation buffer error" (.wrap "get geoloc buffer error" err)) ∨
          (∃ err, env.faults.setErr = some err ∧
            e = .wrap "update geolocation buffer error" (.wrap "save geoloc buffer error" err)))) ∨
        ∃ req err, h.requests = [req] ∧ req.isWifi = false ∧ (env.client req).err = some err ∧
          err ≠ .noLocation ∧ e = .wrap "geolocation error" (.wrap "geolocation error" err)) := by
  cases hgeo : i.config.geolocation
  · simp [handleUplinkEvent, hgeo] at herr
  cases hu : updateGeolocBuffer i env.faults s (Bytes.copy pl.devEui) pl with
  | error err =>
    simp only [handleUplinkEvent, hgeo, hu, if_true, Except.error.injEq] at herr ⊢
    subst herr
    refine ⟨trivial, .inl ⟨trivial, trivial, ?_⟩⟩
    rcases updateGeolocBuffer_error hu with ⟨e', hg, rfl⟩ | ⟨e', hs, rfl⟩
    · exact .inl ⟨e', hg, rfl⟩
    · exact .inr ⟨e', hs, rfl⟩
  | ok r =>
    obtain ⟨s', buf⟩ := r
    rcases geolocation_shaped unmarshal i env.client buf pl with hg | ⟨req, hg, -⟩
    · simp [handleUplinkEvent, hgeo, hu, hg] at herr
    cases ha : readAnswer req (env.client req) with
    | ok loc => simp [handleUplinkEvent, hgeo, hu, hg, ha, Except.map] at herr
    | error x =>
      simp only [handleUplinkEvent, hgeo, hu, hg, ha, if_true, Except.map,
        Except.error.injEq] at herr ⊢
      obtain ⟨err, he, hn, hw, rfl⟩ := readAnswer_error ha
      exact ⟨trivial, .inr ⟨req, err, rfl, hw, he, hn, herr.symm⟩⟩

theorem handleUplinkEvent_error_get :
    let rx : UplinkRXInfo := ⟨[1], [1], 1, 0, none, some (.plain 111)⟩
    let c : Config := { geolocation := true, geolocationBufferTTL := 60, geolocationTDOA := true }
    let pl : UplinkEvent :=
      ⟨1, "test-app", "test-device", [1, 2, 3, 4, 5, 6, 7, 8], [rx, rx, rx], 7, "", []⟩
    let env : CallEnv := ⟨{ getErr := some (.msg "i/o timeout") },
      fun _ => ⟨⟨1, 2, 3, .GEO_RESOLVER_TDOA, 10⟩, none⟩⟩
    let h := handleUplinkEvent (fun _ => .ok []) ⟨c, ""⟩ env Store.empty pl
    h.result = .error (.wrap "update geolocation buffer error"
        (.wrap "get geoloc buffer error" (.msg "i/o timeout"))) ∧
      h.store = Store.empty ∧ h.events = [] := by
  intro rx c pl env h
  have herr : h.result = .error (.wrap "update geolocation buffer error"
      (.wrap "get geoloc buffer error" (.msg "i/o timeout"))) := rfl
  obtain ⟨hev, hst | ⟨_, _, _, _, _, _, he⟩⟩ := handleUplinkEvent_error herr
  · exact ⟨herr, hst.1, hev⟩
  · simp at he

theorem handleUplinkEvent_resolver_answer_tdoa :
    let rx : UplinkRXInfo := ⟨[1], [1], 1, 0, none, some (.plain 111)⟩
    let c : Config := { geolocation := true, geolocationTDOA := true }
    let pl : UplinkEvent :=
      ⟨1, "test-app", "test-device", [1, 2, 3, 4, 5, 6, 7, 8], [rx, rx, rx], 7, "", []⟩
    let env : CallEnv := ⟨{}, fun _ => ⟨⟨0, 0, 0, .UNKNOWN, 0⟩, some (.msg "connection refused")⟩⟩
    (handleUplinkEvent (fun _ => .ok []) ⟨c, ""⟩ env Store.empty pl).result =
      .error (.wrap "geolocation error" (.wrap "geolocation error" (.msg "connection refused"))) := by
  intro rx c pl env
  exact ((@handleUplinkEvent_resolver_answer (fun _ => .ok []) ⟨c, ""⟩ env Store.empty pl
    (.tdoaSingleFrame [rx, rx, rx]) rfl).2.1 _ rfl (by decide) rfl).1

end Call

/-- A WiFi request that the resolver fails with a transport error: the call succeeds and hands
on a location event carrying the location the client returned with the error. -/
theorem handleUplinkEvent_wifi_error :
    let rx : UplinkRXInfo := ⟨[1, 1, 1, 1, 1, 1, 1, 1], [1], 1, 0, none, none⟩
    let ap : Json := .object [("macAddress", .string "AQEBAQEB"), ("signalStrength", .number (-10))]
    let c : Config :=
      { geolocation := true, geolocationWifi := true, geolocationWifiPayloadField := "wifi_aps" }
    let obj := "\x7b\"wifi_aps\":[\x7b\"macAddress\":\"AQEBAQEB\",\"signalStrength\":-10\x7d]\x7d"
    let pl : UplinkEvent := ⟨1, "test-app", "test-device", [1, 2, 3, 4, 5, 6, 7, 8], [rx], 7, obj, []⟩
    let u : String → Except GoError JsonObject := fun str =>
      if str = obj then .ok [("wifi_aps", .array [ap])] else .error (.msg "invalid character")
    let zero : Location := ⟨0, 0, 0, .UNKNOWN, 0⟩
    let env : CallEnv := ⟨{}, fun _ => ⟨zero, some (.msg "connection refused")⟩⟩
    let h := handleUplinkEvent u ⟨c, ""⟩ env Store.empty pl
    h.result = .ok () ∧ h.events = [locationEvent pl [] zero] :=
  ⟨rfl, by decide⟩

end LoraCloud
