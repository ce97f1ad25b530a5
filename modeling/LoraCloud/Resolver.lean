import LoraCloud.Json

/-!
# The resolver client and the four strategy wrappers

The resolver client (`geolocation.Client`) is not part of the package; the integration only
calls its methods. A request is the method with the arguments the integration passes, and the
resolver's behaviour is any function `Client` from requests to the `(Location, error)` pair a
method returns. A computation that talks to the resolver is a `Sent` value: the requests it
sent, in order, and what it returns.

`tdoaGeolocation`, `rssiGeolocation` and `gnssLR1110Geolocation` read the client's answer the
same way (`locationOf`): `ErrNoLocation` is no location, any other error is wrapped and
returned. `wifiTDOAGeolocation` keeps only the first half: any other error falls through to
returning the location the client returned with it (`wifiTDOAGeolocation_error`).

`filterOnFineTimestamp` selects the frames for TDOA. It keeps receptions whose fine timestamp
is set at all, plain or encrypted (`filterOnFineTimestamp_encrypted`), although its comment
speaks of a plain one.
-/

namespace LoraCloud

/-- A request to the resolver client, with the arguments the integration passes. -/
inductive ResolverCall where
  | tdoaSingleFrame (rxInfo : Frame)
  | tdoaMultiFrame (rxInfo : List Frame)
  | rssiSingleFrame (rxInfo : Frame)
  | rssiMultiFrame (rxInfo : List Frame)
  | gnssLR1110SingleFrame (rxInfo : Frame) (useRxTime : Bool) (pl : List UInt8)
  | wifiTDOASingleFrame (rxInfo : Frame) (aps : List WifiAccessPoint)
  deriving DecidableEq, Repr

/-- The frames a TDOA or RSSI request carries; GNSS and WiFi requests carry none. -/
def ResolverCall.frames : ResolverCall → Option (List Frame)
  | .tdoaSingleFrame f | .rssiSingleFrame f => some [f]
  | .tdoaMultiFrame fs | .rssiMultiFrame fs => some fs
  | _ => none

def ResolverCall.isWifi : ResolverCall → Bool
  | .wifiTDOASingleFrame .. => true
  | _ => false

def ResolverCall.isTDOA : ResolverCall → Bool
  | .tdoaSingleFrame _ | .tdoaMultiFrame _ => true
  | _ => false

/-- What a client method returns: `(common.Location, error)`. -/
structure ClientResult where
  loc : Location
  err : Option GoError
  deriving DecidableEq, Repr

/-- The resolver's behaviour: its answer to each request. -/
abbrev Client := ResolverCall → ClientResult

/-- A computation that talks to the resolver: the requests it sent, in order, and its value. -/
structure Sent (α : Type) where
  requests : List ResolverCall
  value : α

def Sent.map (f : α → β) (x : Sent α) : Sent β := ⟨x.requests, f x.value⟩

@[simp] theorem Sent.map_requests (f : α → β) (x : Sent α) : (x.map f).requests = x.requests :=
  rfl

@[simp] theorem Sent.map_value (f : α → β) (x : Sent α) : (x.map f).value = f x.value := rfl

/-- Send one request and read the answer. -/
def send (client : Client) (req : ResolverCall) : Sent ClientResult := ⟨[req], client req⟩

-- ---------------------------------------------------------------------------
-- Fine timestamps
-- ---------------------------------------------------------------------------

/-- `filterOnFineTimestamp`: in each frame, the receptions with a fine timestamp
(`GetFineTimestamp() != nil`); frames left with fewer than `minPerFrame` are dropped. -/
def filterOnFineTimestamp (geolocBuffer : List Frame) (minPerFrame : Int) : List Frame :=
  geolocBuffer.filterMap fun frame =>
    let f := frame.filter fun rx => rx.fineTimestamp.isSome
    if minPerFrame ≤ f.length then some f else none

/-- `GetPlainFineTimestamp() != nil`. -/
def UplinkRXInfo.hasPlainFineTimestamp (rx : UplinkRXInfo) : Bool :=
  match rx.fineTimestamp with
  | some (.plain _) => true
  | _ => false

/-- The uplink ids of every reception of every frame, in order: the `uplinkIDs` loops of
`geolocation`. -/
def uplinkIDs (frames : List Frame) : List (List UInt8) :=
  frames.flatMap fun f => f.map (·.uplinkId)

@[simp] theorem uplinkIDs_append (fs gs : List Frame) :
    uplinkIDs (fs ++ gs) = uplinkIDs fs ++ uplinkIDs gs :=
  List.flatMap_append _ _ _

theorem uplinkIDs_sublist {fs gs : List Frame} (h : fs.Sublist gs) :
    (uplinkIDs fs).Sublist (uplinkIDs gs) := by
  induction h with
  | slnil => exact .slnil
  | cons g _ ih => exact ih.trans (List.sublist_append_right _ _)
  | cons₂ g _ ih => exact ih.append_left _

theorem mem_filterOnFineTimestamp {f : Frame} :
    f ∈ filterOnFineTimestamp geolocBuffer minPerFrame ↔
      ∃ g ∈ geolocBuffer, f = g.filter (fun rx => rx.fineTimestamp.isSome) ∧
        minPerFrame ≤ f.length := by
  simp only [filterOnFineTimestamp, List.mem_filterMap, Option.ite_none_right_eq_some,
    Option.some.injEq]
  constructor
  · rintro ⟨g, hg, hlen, rfl⟩
    exact ⟨g, hg, rfl, hlen⟩
  · rintro ⟨g, hg, rfl, hlen⟩
    exact ⟨g, hg, hlen, rfl⟩

theorem uplinkIDs_filterOnFineTimestamp_sublist (geolocBuffer : List Frame) (minPerFrame : Int) :
    (uplinkIDs (filterOnFineTimestamp geolocBuffer minPerFrame)).Sublist
      (uplinkIDs geolocBuffer) := by
  induction geolocBuffer with
  | nil => exact List.Sublist.slnil
  | cons g gs ih =>
    have hg : ((g.filter fun rx => rx.fineTimestamp.isSome).map (·.uplinkId)).Sublist
        (g.map (·.uplinkId)) := (List.filter_sublist g).map _
    by_cases hlen : minPerFrame ≤ (g.filter fun rx => rx.fineTimestamp.isSome).length
    · simpa [filterOnFineTimestamp, uplinkIDs, hlen] using hg.append ih
    · simpa [filterOnFineTimestamp, uplinkIDs, hlen] using ih.trans (List.sublist_append_right _ _)

theorem filterOnFineTimestamp_spec (geolocBuffer : List Frame) (minPerFrame : Int) :
    (∀ f ∈ filterOnFineTimestamp geolocBuffer minPerFrame,
      minPerFrame ≤ f.length ∧ ∀ rx ∈ f, rx.fineTimestamp.isSome) ∧
    (uplinkIDs (filterOnFineTimestamp geolocBuffer minPerFrame)).Sublist
      (uplinkIDs geolocBuffer) := by
  refine ⟨fun f hf => ?_, uplinkIDs_filterOnFineTimestamp_sublist _ _⟩
  obtain ⟨g, -, rfl, hlen⟩ := mem_filterOnFineTimestamp.mp hf
  exact ⟨hlen, fun rx hrx => (List.mem_filter.mp hrx).2⟩

/-- A frame of three receptions whose fine timestamps are all encrypted survives the filter
whole, with no plain fine timestamp in it. -/
theorem filterOnFineTimestamp_encrypted :
    let rx : UplinkRXInfo := ⟨[1], [1], 0, 0, none, some (.encrypted [7])⟩
    filterOnFineTimestamp [[rx, rx, rx]] 3 = [[rx, rx, rx]] ∧
      [rx, rx, rx].all (fun rx => !rx.hasPlainFineTimestamp) := by
  decide

-- ---------------------------------------------------------------------------
-- The strategy wrappers
-- ---------------------------------------------------------------------------

/-- How `tdoaGeolocation`, `rssiGeolocation` and `gnssLR1110Geolocation` read the client's
answer: `ErrNoLocation` is no location, another error is wrapped, success is the location. -/
def locationOf (r : ClientResult) : Except GoError (Option Location) :=
  match r.err with
  | none => .ok (some r.loc)
  | some err => if err = .noLocation then .ok none else .error (.wrap "geolocation error" err)

theorem locationOf_eq_some {r : ClientResult} {loc : Location}
    (h : locationOf r = .ok (some loc)) : loc = r.loc ∧ r.err = none := by
  unfold locationOf at h
  split at h
  · exact ⟨(Option.some.inj (Except.ok.inj h)).symm, ‹_›⟩
  · split at h <;> exact nomatch h

/-- `tdoaGeolocation` and `rssiGeolocation`: a single-frame request when the buffer holds one
frame, a multi-frame request otherwise. -/
def frameGeolocation (single : Frame → ResolverCall) (multi : List Frame → ResolverCall)
    (client : Client) (geolocBuffer : List Frame) : Sent (Except GoError (Option Location)) :=
  (send client (match geolocBuffer with
    | [f] => single f
    | _ => multi geolocBuffer)).map locationOf

def tdoaGeolocation (client : Client) (geolocBuffer : List Frame) :
    Sent (Except GoError (Option Location)) :=
  frameGeolocation .tdoaSingleFrame .tdoaMultiFrame client geolocBuffer

def rssiGeolocation (client : Client) (geolocBuffer : List Frame) :
    Sent (Except GoError (Option Location)) :=
  frameGeolocation .rssiSingleFrame .rssiMultiFrame client geolocBuffer

def gnssLR1110Geolocation (client : Client) (rxInfo : Frame) (useRxTime : Bool)
    (pl : List UInt8) : Sent (Except GoError (Option Location)) :=
  (send client (.gnssLR1110SingleFrame rxInfo useRxTime pl)).map locationOf

/-- `wifiTDOAGeolocation`: `ErrNoLocation` is no location; with any other error the wrapper
goes on and returns the location the client returned. -/
def wifiTDOAGeolocation (client : Client) (rxInfo : Frame) (aps : List WifiAccessPoint) :
    Sent (Except GoError (Option Location)) :=
  (send client (.wifiTDOASingleFrame rxInfo aps)).map fun r =>
    if r.err = some .noLocation then .ok none else .ok (some r.loc)

/-- How the integration reads the answer to a request: as `wifiTDOAGeolocation` does for a
WiFi request, with `locationOf` for the others. -/
def readAnswer : ResolverCall → ClientResult → Except GoError (Option Location)
  | .wifiTDOASingleFrame .., r => if r.err = some .noLocation then .ok none else .ok (some r.loc)
  | _, r => locationOf r

theorem frameGeolocation_eq (single multi) (client : Client) (geolocBuffer : List Frame)
    (hs : ∀ f, (single f).isWifi = false) (hm : ∀ fs, (multi fs).isWifi = false) :
    let req := match geolocBuffer with
      | [f] => single f
      | _ => multi geolocBuffer
    frameGeolocation single multi client geolocBuffer = (send client req).map (readAnswer req) := by
  intro req
  have h : req.isWifi = false := by
    simp only [req]
    split
    · exact hs _
    · exact hm _
  unfold frameGeolocation
  congr 1
  funext r
  cases hreq : req <;> simp_all [readAnswer, ResolverCall.isWifi]

theorem gnssLR1110Geolocation_eq (client : Client) (rxInfo : Frame) (useRxTime : Bool)
    (pl : List UInt8) :
    gnssLR1110Geolocation client rxInfo useRxTime pl =
      (send client (.gnssLR1110SingleFrame rxInfo useRxTime pl)).map
        (readAnswer (.gnssLR1110SingleFrame rxInfo useRxTime pl)) := rfl

theorem wifiTDOAGeolocation_eq (client : Client) (rxInfo : Frame) (aps : List WifiAccessPoint) :
    wifiTDOAGeolocation client rxInfo aps =
      (send client (.wifiTDOASingleFrame rxInfo aps)).map
        (readAnswer (.wifiTDOASingleFrame rxInfo aps)) := rfl

/-- `readAnswer` returns an error only for a non-WiFi request answered with an error other
than `ErrNoLocation`; a location it returns is the one the resolver returned. -/
theorem readAnswer_cases (req : ResolverCall) (r : ClientResult) :
    (r.err = some .noLocation → readAnswer req r = .ok none) ∧
    (∀ err, r.err = some err → err ≠ .noLocation → req.isWifi = false →
      readAnswer req r = .error (.wrap "geolocation error" err)) ∧
    (∀ loc, readAnswer req r = .ok (some loc) →
      loc = r.loc ∧ (r.err = none ∨ req.isWifi = true)) := by
  refine ⟨fun h => ?_, fun err h hn hw => ?_, fun loc h => ?_⟩
  · cases req <;> simp [readAnswer, locationOf, h]
  · cases req <;> simp_all [readAnswer, locationOf, ResolverCall.isWifi]
  · cases req with
    | wifiTDOASingleFrame =>
      simp only [readAnswer] at h
      split at h
      · exact nomatch h
      · exact ⟨(Option.some.inj (Except.ok.inj h)).symm, .inr rfl⟩
    | _ => exact (locationOf_eq_some h).imp_right .inl

theorem locationOf_eq_error {r : ClientResult} {x : GoError} (h : locationOf r = .error x) :
    ∃ err, r.err = some err ∧ err ≠ .noLocation ∧ x = .wrap "geolocation error" err := by
  unfold locationOf at h
  split at h
  · exact nomatch h
  · rename_i err he
    split_ifs at h with hn
    exact ⟨err, he, hn, (Except.error.inj h).symm⟩

theorem readAnswer_error {req : ResolverCall} {r : ClientResult} {x : GoError}
    (h : readAnswer req r = .error x) :
    ∃ err, r.err = some err ∧ err ≠ .noLocation ∧ req.isWifi = false ∧
      x = .wrap "geolocation error" err := by
  cases req with
  | wifiTDOASingleFrame =>
    simp only [readAnswer] at h
    split_ifs at h
  | _ =>
    obtain ⟨err, he, hn, rfl⟩ := locationOf_eq_error h
    exact ⟨err, he, hn, rfl, rfl⟩

/-- `x` sent exactly `req`, and reads a fix, or `ErrNoLocation`, the way the resolver answered
it. -/
structure Answers (client : Client) (req : ResolverCall)
    (x : Sent (Except GoError (Option Location))) : Prop where
  requests_eq : x.requests = [req]
  of_fix : (client req).err = none → x.value = .ok (some (client req).loc)
  of_noLocation : (client req).err = some .noLocation → x.value = .ok none

theorem locationOf_answers (client : Client) (req : ResolverCall) :
    Answers client req ((send client req).map locationOf) :=
  ⟨rfl, fun h => by simp [send, locationOf, h], fun h => by simp [send, locationOf, h]⟩

theorem frameGeolocation_answers (single multi) (client : Client) (geolocBuffer : List Frame) :
    Answers client (match geolocBuffer with | [f] => single f | _ => multi geolocBuffer)
      (frameGeolocation single multi client geolocBuffer) :=
  locationOf_answers client _

theorem gnssLR1110Geolocation_answers (client : Client) (rxInfo : Frame) (useRxTime : Bool)
    (pl : List UInt8) :
    Answers client (.gnssLR1110SingleFrame rxInfo useRxTime pl)
      (gnssLR1110Geolocation client rxInfo useRxTime pl) :=
  locationOf_answers client _

theorem wifiTDOAGeolocation_answers (client : Client) (rxInfo : Frame)
    (aps : List WifiAccessPoint) :
    Answers client (.wifiTDOASingleFrame rxInfo aps) (wifiTDOAGeolocation client rxInfo aps) :=
  ⟨rfl, fun h => by simp [wifiTDOAGeolocation, send, h],
    fun h => by simp [wifiTDOAGeolocation, send, h]⟩

theorem locationOf_error {r : ClientResult} {err : GoError} (h : r.err = some err)
    (hn : err ≠ .noLocation) : locationOf r = .error (.wrap "geolocation error" err) := by
  simp [locationOf, h, hn]

/-- `wifiTDOAGeolocation` never returns an error: on an error other than `ErrNoLocation` it
returns the location the client returned with that error. -/
theorem wifiTDOAGeolocation_error (client : Client) (rxInfo : Frame)
    (aps : List WifiAccessPoint) {err : GoError}
    (h : (client (.wifiTDOASingleFrame rxInfo aps)).err = some err) (hn : err ≠ .noLocation) :
    (wifiTDOAGeolocation client rxInfo aps).value =
      .ok (some (client (.wifiTDOASingleFrame rxInfo aps)).loc) := by
  simp [wifiTDOAGeolocation, send, h, hn]

end LoraCloud
