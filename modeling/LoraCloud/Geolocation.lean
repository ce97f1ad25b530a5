import LoraCloud.Resolver

/-!
# Strategy selection

`geolocation` tries the strategies in a fixed order: GNSS and WiFi on a payload read from the
uplink's object, then TDOA on the fine-timestamped frames of the buffer, then RSSI on the whole
buffer. The first one that applies sends its request and returns whatever it gets back; the
later ones are not tried. The branches come in two shapes: `payloadBranch` (GNSS, WiFi) and
`bufferBranch` (TDOA, RSSI). `geolocationWith` takes the two extraction results as arguments,
so that `geolocation` is it applied to the extractors.

`selectCall` states the priority rule on its own. `geolocation_selects`: when no enabled
extractor fails, `geolocation` sends exactly the request `selectCall` picks, or none, and
reads a fix or `ErrNoLocation` as the resolver answered it. When an enabled extractor is
reached and fails, `geolocation` gives up without a request (`geolocation_extract_error`): the
lower strategies are not tried. Whatever the extractors give, a TDOA request carries the
buffer's frames filtered on fine timestamps and an RSSI request the whole buffer
(`geolocationWith_framesFrom`).
-/

namespace LoraCloud

/-- What `geolocation` returns: the uplink ids of the frames it sent, and the location. -/
abbrev GeoResult := Except GoError (List (List UInt8) × Option Location)

/-- The GNSS and WiFi branches of `geolocation`: an extraction error ends geolocation with no
location, an empty payload goes on to `next`, a payload is resolved. -/
def payloadBranch (enabled : Bool) (payload : Except GoError (List α))
    (resolve : List α → Sent (Except GoError (Option Location))) (next : Sent GeoResult) :
    Sent GeoResult :=
  if enabled then
    match payload with
    | .error _ => ⟨[], .ok ([], none)⟩
    | .ok p => if p.length = 0 then next else (resolve p).map (·.map (([], ·)))
  else next

/-- The TDOA and RSSI branches of `geolocation`: too few frames go on to `next`; otherwise the
frames are resolved, and their uplink ids returned with the location. -/
def bufferBranch (enabled : Bool) (frames : List Frame) (minBufferSize : Int)
    (resolve : List Frame → Sent (Except GoError (Option Location))) (next : Sent GeoResult) :
    Sent GeoResult :=
  if enabled then
    if frames.length = 0 ∨ (frames.length : Int) < minBufferSize then next
    else (resolve frames).map (·.map ((uplinkIDs frames, ·)))
  else next

/-- `geolocation` once the GNSS payload and the access points have been extracted. -/
def geolocationWith (gnssPL : Except GoError (List UInt8))
    (wifiAPs : Except GoError (List WifiAccessPoint)) (c : Config) (client : Client)
    (geolocBuffer : List Frame) (pl : UplinkEvent) : Sent GeoResult :=
  payloadBranch c.geolocationGNSS gnssPL
    (gnssLR1110Geolocation client pl.rxInfo c.geolocationGNSSUseRxTime) <|
  payloadBranch c.geolocationWifi wifiAPs (wifiTDOAGeolocation client pl.rxInfo) <|
  bufferBranch c.geolocationTDOA (filterOnFineTimestamp geolocBuffer 3)
    c.geolocationMinBufferSize (tdoaGeolocation client) <|
  bufferBranch c.geolocationRSSI geolocBuffer c.geolocationMinBufferSize
    (rssiGeolocation client) <|
  ⟨[], .ok ([], none)⟩

def geolocation (unmarshal : String → Except GoError JsonObject) (i : Integration)
    (client : Client) (geolocBuffer : List Frame) (pl : UplinkEvent) : Sent GeoResult :=
  geolocationWith
    (getBytesFromJSONObject unmarshal i.config.geolocationGNSSPayloadField pl.objectJson)
    (getWifiAccessPointsFromJSONObject unmarshal i.config.geolocationWifiPayloadField
      pl.objectJson)
    i.config client geolocBuffer pl

-- ---------------------------------------------------------------------------
-- One lemma per branch outcome
-- ---------------------------------------------------------------------------

section Branches

variable {α : Type} {resolve : List α → Sent (Except GoError (Option Location))}
  {next : Sent GeoResult}

theorem payloadBranch_skip {enabled : Bool} {payload : Except GoError (List α)}
    (h : enabled = true → payload = .ok []) : payloadBranch enabled payload resolve next = next := by
  cases enabled
  · rfl
  · simp [payloadBranch, h rfl]

theorem payloadBranch_congr {enabled : Bool} {payload payload' : Except GoError (List α)}
    (h : enabled = true → payload = payload') :
    payloadBranch enabled payload resolve next = payloadBranch enabled payload' resolve next := by
  cases enabled
  · rfl
  · rw [h rfl]

theorem payloadBranch_error (e : GoError) :
    payloadBranch true (.error e) resolve next = ⟨[], .ok ([], none)⟩ := rfl

theorem payloadBranch_take {p : List α} (hp : p ≠ []) :
    payloadBranch true (.ok p) resolve next = (resolve p).map (·.map (([], ·))) := by
  simp [payloadBranch, hp]

variable {resolve : List Frame → Sent (Except GoError (Option Location))} {frames : List Frame}
  {enabled : Bool} {minBufferSize : Int}

theorem bufferGuard_iff :
    ¬(frames.length = 0 ∨ (frames.length : Int) < minBufferSize) ↔
      max 1 minBufferSize ≤ frames.length := by
  omega

theorem bufferBranch_skip (h : ¬(enabled = true ∧ max 1 minBufferSize ≤ frames.length)) :
    bufferBranch enabled frames minBufferSize resolve next = next := by
  unfold bufferBranch
  split_ifs with he hg
  · rfl
  · exact absurd ⟨he, bufferGuard_iff.mp hg⟩ h
  · rfl

theorem bufferBranch_take (he : enabled = true) (hm : max 1 minBufferSize ≤ frames.length) :
    bufferBranch enabled frames minBufferSize resolve next =
      (resolve frames).map (·.map ((uplinkIDs frames, ·))) := by
  rw [bufferBranch, if_pos he, if_neg (bufferGuard_iff.mpr hm)]

end Branches

-- ---------------------------------------------------------------------------
-- The priority rule
-- ---------------------------------------------------------------------------

/-- The request the priority rule picks, given the extracted GNSS payload and access points:
GNSS, then WiFi, then TDOA on the fine-timestamped frames, then RSSI, each only when enabled
and given something to resolve. -/
def selectCall (c : Config) (buf : List Frame) (pl : UplinkEvent) (bytes : List UInt8)
    (aps : List WifiAccessPoint) : Option ResolverCall :=
  let F := filterOnFineTimestamp buf 3
  if c.geolocationGNSS ∧ bytes ≠ [] then
    some (.gnssLR1110SingleFrame pl.rxInfo c.geolocationGNSSUseRxTime bytes)
  else if c.geolocationWifi ∧ aps ≠ [] then some (.wifiTDOASingleFrame pl.rxInfo aps)
  else if c.geolocationTDOA ∧ max 1 c.geolocationMinBufferSize ≤ F.length then
    some (match F with
      | [f] => .tdoaSingleFrame f
      | _ => .tdoaMultiFrame F)
  else if c.geolocationRSSI ∧ max 1 c.geolocationMinBufferSize ≤ buf.length then
    some (match buf with
      | [f] => .rssiSingleFrame f
      | _ => .rssiMultiFrame buf)
  else none

/-- The location part of a `geolocation` result. -/
def GeoResult.location (r : GeoResult) : Except GoError (Option Location) := r.map Prod.snd

/-- `x` sent exactly what `sel` picked, and read the resolver's answer to it. -/
def SendsSelected (client : Client) (sel : Option ResolverCall) (x : Sent GeoResult) : Prop :=
  match sel with
  | none => x = ⟨[], .ok ([], none)⟩
  | some req => Answers client req (x.map GeoResult.location)

theorem sendsSelected_map_payload {client : Client} {req : ResolverCall}
    {x : Sent (Except GoError (Option Location))} (h : Answers client req x) :
    SendsSelected client (some req) (x.map (·.map (([], ·)))) :=
  ⟨h.requests_eq, fun hf => by simp [GeoResult.location, Except.map, h.of_fix hf],
    fun hn => by simp [GeoResult.location, Except.map, h.of_noLocation hn]⟩

theorem sendsSelected_map_buffer {client : Client} {req : ResolverCall}
    {x : Sent (Except GoError (Option Location))} (ids : List (List UInt8))
    (h : Answers client req x) : SendsSelected client (some req) (x.map (·.map ((ids, ·)))) :=
  ⟨h.requests_eq, fun hf => by simp [GeoResult.location, Except.map, h.of_fix hf],
    fun hn => by simp [GeoResult.location, Except.map, h.of_noLocation hn]⟩

/-- With the payloads extracted, `geolocationWith` follows `selectCall`. -/
theorem geolocationWith_sendsSelected (c : Config) (client : Client) (buf : List Frame)
    (pl : UplinkEvent) (bytes : List UInt8) (aps : List WifiAccessPoint) :
    SendsSelected client (selectCall c buf pl bytes aps)
      (geolocationWith (.ok bytes) (.ok aps) c client buf pl) := by
  unfold selectCall geolocationWith
  by_cases hg : c.geolocationGNSS = true ∧ bytes ≠ []
  · rw [if_pos hg, hg.1, payloadBranch_take hg.2]
    exact sendsSelected_map_payload (gnssLR1110Geolocation_answers ..)
  rw [if_neg hg, payloadBranch_skip (by simpa using hg)]
  by_cases hw : c.geolocationWifi = true ∧ aps ≠ []
  · rw [if_pos hw, hw.1, payloadBranch_take hw.2]
    exact sendsSelected_map_payload (wifiTDOAGeolocation_answers ..)
  rw [if_neg hw, payloadBranch_skip (by simpa using hw)]
  by_cases ht : c.geolocationTDOA = true ∧
      max 1 c.geolocationMinBufferSize ≤ (filterOnFineTimestamp buf 3).length
  · rw [if_pos ht, bufferBranch_take ht.1 ht.2]
    exact sendsSelected_map_buffer _ (frameGeolocation_answers ..)
  rw [if_neg ht, bufferBranch_skip ht]
  by_cases hr : c.geolocationRSSI = true ∧ max 1 c.geolocationMinBufferSize ≤ buf.length
  · rw [if_pos hr, bufferBranch_take hr.1 hr.2]
    exact sendsSelected_map_buffer _ (frameGeolocation_answers ..)
  rw [if_neg hr, bufferBranch_skip hr]
  rfl

section Extracted

variable {unmarshal : String → Except GoError JsonObject} {i : Integration} {client : Client}
  {buf : List Frame} {pl : UplinkEvent} {bytes : List UInt8} {aps : List WifiAccessPoint}

theorem geolocation_eq_with
    (hg : i.config.geolocationGNSS = true → getBytesFromJSONObject unmarshal
      i.config.geolocationGNSSPayloadField pl.objectJson = .ok bytes)
    (hw : i.config.geolocationWifi = true → getWifiAccessPointsFromJSONObject unmarshal
      i.config.geolocationWifiPayloadField pl.objectJson = .ok aps) :
    geolocation unmarshal i client buf pl =
      geolocationWith (.ok bytes) (.ok aps) i.config client buf pl := by
  unfold geolocation geolocationWith
  rw [payloadBranch_congr hg, payloadBranch_congr hw]

theorem geolocation_requests
    (hg : i.config.geolocationGNSS = true → getBytesFromJSONObject unmarshal
      i.config.geolocationGNSSPayloadField pl.objectJson = .ok bytes)
    (hw : i.config.geolocationWifi = true → getWifiAccessPointsFromJSONObject unmarshal
      i.config.geolocationWifiPayloadField pl.objectJson = .ok aps) :
    (geolocation unmarshal i client buf pl).requests =
      (selectCall i.config buf pl bytes aps).toList := by
  have hs := geolocationWith_sendsSelected i.config client buf pl bytes aps
  rw [geolocation_eq_with hg hw]
  cases hsel : selectCall i.config buf pl bytes aps with
  | none =>
    rw [hsel, SendsSelected] at hs
    rw [hs]
    rfl
  | some req =>
    rw [hsel, SendsSelected] at hs
    simpa using hs.requests_eq

end Extracted

-- ---------------------------------------------------------------------------
-- What any run of `geolocation` looks like
-- ---------------------------------------------------------------------------

/-- What a `geolocation` run looks like from outside, whatever the extractors gave: nothing
sent and no location, or one request, whose answer is read by `readAnswer` and returned with
the uplink ids of the frames the request carried. A TDOA or RSSI request carries at least one
frame, each with 3 receptions or more, or taken from the buffer `buf`. -/
def Shaped (client : Client) (buf : List Frame) (g : Sent GeoResult) : Prop :=
  g = ⟨[], .ok ([], none)⟩ ∨
    ∃ req, g = ⟨[req], (readAnswer req (client req)).map ((uplinkIDs (req.frames.getD []), ·))⟩ ∧
      ∀ fs, req.frames = some fs → fs ≠ [] ∧ ∀ f ∈ fs, 3 ≤ f.length ∨ f ∈ buf

section Shape

variable {client : Client} {buf : List Frame} {next : Sent GeoResult}

theorem payloadBranch_shaped {α : Type} {enabled : Bool} {payload : Except GoError (List α)}
    {resolve : List α → Sent (Except GoError (Option Location))}
    (hres : ∀ p, ∃ req, req.frames = none ∧ resolve p = (send client req).map (readAnswer req))
    (hnext : Shaped client buf next) :
    Shaped client buf (payloadBranch enabled payload resolve next) := by
  cases enabled with
  | false => exact hnext
  | true =>
    cases payload with
    | error e => exact .inl rfl
    | ok p =>
      by_cases hp : p.length = 0
      · simpa [payloadBranch, hp] using hnext
      · obtain ⟨req, hf, hr⟩ := hres p
        refine .inr ⟨req, ?_, by simp [hf]⟩
        simp [payloadBranch, hp, hr, hf, send, Sent.map, uplinkIDs]

theorem bufferBranch_shaped {enabled : Bool} {frames : List Frame} {minBufferSize : Int}
    {resolve : List Frame → Sent (Except GoError (Option Location))}
    (hres : ∃ req, req.frames = some frames ∧ resolve frames = (send client req).map (readAnswer req))
    (hfr : ∀ f ∈ frames, 3 ≤ f.length ∨ f ∈ buf) (hnext : Shaped client buf next) :
    Shaped client buf (bufferBranch enabled frames minBufferSize resolve next) := by
  unfold bufferBranch
  split_ifs with he hg
  · exact hnext
  · obtain ⟨req, hf, hr⟩ := hres
    refine .inr ⟨req, ?_, fun fs hfs => ?_⟩
    · simp [hr, hf, send, Sent.map]
    · obtain rfl := Option.some.inj (hf.symm.trans hfs)
      exact ⟨fun h => hg (.inl (by simp [h])), hfr⟩
  · exact hnext

theorem frameGeolocation_frames (single : Frame → ResolverCall)
    (multi : List Frame → ResolverCall) (frames : List Frame)
    (hs : ∀ f, (single f).frames = some [f]) (hm : ∀ fs, (multi fs).frames = some fs) :
    (match frames with
      | [f] => single f
      | _ => multi frames).frames = some frames := by
  split
  · exact hs _
  · exact hm _

end Shape

/-- Whatever the extractors give, `geolocationWith` sends at most one request, and returns the
wrapper's reading of its answer with the uplink ids of the frames it carried. -/
theorem geolocationWith_shaped (gnssPL : Except GoError (List UInt8))
    (wifiAPs : Except GoError (List WifiAccessPoint)) (c : Config) (client : Client)
    (buf : List Frame) (pl : UplinkEvent) :
    Shaped client buf (geolocationWith gnssPL wifiAPs c client buf pl) := by
  unfold geolocationWith
  refine payloadBranch_shaped (fun p =>
    ⟨.gnssLR1110SingleFrame pl.rxInfo c.geolocationGNSSUseRxTime p, rfl,
      gnssLR1110Geolocation_eq ..⟩) ?_
  refine payloadBranch_shaped (fun p =>
    ⟨.wifiTDOASingleFrame pl.rxInfo p, rfl, wifiTDOAGeolocation_eq ..⟩) ?_
  refine bufferBranch_shaped ⟨_, frameGeolocation_frames .tdoaSingleFrame .tdoaMultiFrame _
    (fun _ => rfl) (fun _ => rfl), frameGeolocation_eq _ _ client _ (fun _ => rfl) (fun _ => rfl)⟩
    (fun f hf => .inl ?_) ?_
  · obtain ⟨g, -, rfl, h⟩ := mem_filterOnFineTimestamp.mp hf
    omega
  refine bufferBranch_shaped ⟨_, frameGeolocation_frames .rssiSingleFrame .rssiMultiFrame _
    (fun _ => rfl) (fun _ => rfl), frameGeolocation_eq _ _ client _ (fun _ => rfl) (fun _ => rfl)⟩
    (fun f hf => .inr hf) ?_
  exact .inl rfl

theorem geolocation_shaped (unmarshal : String → Except GoError JsonObject) (i : Integration)
    (client : Client) (buf : List Frame) (pl : UplinkEvent) :
    Shaped client buf (geolocation unmarshal i client buf pl) :=
  geolocationWith_shaped ..

-- ---------------------------------------------------------------------------
-- Where the uplink ids of a request come from
-- ---------------------------------------------------------------------------

/-- Every TDOA request among `reqs` carries the frames of `buf` filtered on fine timestamps, and
every RSSI request the whole of `buf`. -/
def FramesFrom (buf : List Frame) (reqs : List ResolverCall) : Prop :=
  ∀ req ∈ reqs, ∀ fs, req.frames = some fs →
    fs = if req.isTDOA then filterOnFineTimestamp buf 3 else buf

section Frames

variable {client : Client} {buf : List Frame} {next : Sent GeoResult}

theorem FramesFrom.uplinkIDs_sublist {reqs : List ResolverCall} {req : ResolverCall}
    {fs : List Frame} (h : FramesFrom buf reqs) (hr : req ∈ reqs) (hfs : req.frames = some fs) :
    (uplinkIDs fs).Sublist (uplinkIDs buf) := by
  rw [h req hr fs hfs]
  split
  · exact uplinkIDs_filterOnFineTimestamp_sublist buf 3
  · exact List.Sublist.refl _

theorem payloadBranch_framesFrom {α : Type} {enabled : Bool} {payload : Except GoError (List α)}
    {resolve : List α → Sent (Except GoError (Option Location))}
    (hres : ∀ p, ∃ req, req.frames = none ∧ resolve p = (send client req).map (readAnswer req))
    (hnext : FramesFrom buf next.requests) :
    FramesFrom buf (payloadBranch enabled payload resolve next).requests := by
  cases enabled with
  | false => exact hnext
  | true =>
    cases payload with
    | error e => exact fun _ h => nomatch h
    | ok p =>
      by_cases hp : p.length = 0
      · simpa [payloadBranch, hp] using hnext
      · obtain ⟨req, hf, hr⟩ := hres p
        intro r hmem fs hfs
        obtain rfl : r = req := by simpa [payloadBranch, hp, hr, send, Sent.map] using hmem
        exact nomatch hf.symm.trans hfs

theorem bufferBranch_framesFrom {enabled : Bool} {frames : List Frame} {minBufferSize : Int}
    {resolve : List Frame → Sent (Except GoError (Option Location))}
    (hres : ∃ req, req.frames = some frames ∧
      (frames = if req.isTDOA then filterOnFineTimestamp buf 3 else buf) ∧
      resolve frames = (send client req).map (readAnswer req))
    (hnext : FramesFrom buf next.requests) :
    FramesFrom buf (bufferBranch enabled frames minBufferSize resolve next).requests := by
  unfold bufferBranch
  split_ifs
  · exact hnext
  · obtain ⟨req, hf, hfr, hr⟩ := hres
    intro r hmem fs hfs
    obtain rfl : r = req := by simpa [hr, send, Sent.map] using hmem
    obtain rfl := Option.some.inj (hf.symm.trans hfs)
    exact hfr
  · exact hnext

theorem frameGeolocation_isTDOA (single : Frame → ResolverCall)
    (multi : List Frame → ResolverCall) (frames : List Frame) (b : Bool)
    (hs : ∀ f, (single f).isTDOA = b) (hm : ∀ fs, (multi fs).isTDOA = b) :
    (match frames with
      | [f] => single f
      | _ => multi frames).isTDOA = b := by
  split
  · exact hs _
  · exact hm _

end Frames

/-- Whatever the extractors give, a TDOA request carries the buffer's frames filtered on fine
timestamps and an RSSI request the whole buffer. -/
theorem geolocationWith_framesFrom (gnssPL : Except GoError (List UInt8))
    (wifiAPs : Except GoError (List WifiAccessPoint)) (c : Config) (client : Client)
    (buf : List Frame) (pl : UplinkEvent) :
    FramesFrom buf (geolocationWith gnssPL wifiAPs c client buf pl).requests := by
  unfold geolocationWith
  refine payloadBranch_framesFrom (fun p =>
    ⟨.gnssLR1110SingleFrame pl.rxInfo c.geolocationGNSSUseRxTime p, rfl,
      gnssLR1110Geolocation_eq ..⟩) ?_
  refine payloadBranch_framesFrom (fun p =>
    ⟨.wifiTDOASingleFrame pl.rxInfo p, rfl, wifiTDOAGeolocation_eq ..⟩) ?_
  refine bufferBranch_framesFrom ⟨_, frameGeolocation_frames .tdoaSingleFrame .tdoaMultiFrame _
    (fun _ => rfl) (fun _ => rfl),
    by rw [frameGeolocation_isTDOA .tdoaSingleFrame .tdoaMultiFrame _ true (fun _ => rfl)
      (fun _ => rfl), if_pos rfl],
    frameGeolocation_eq _ _ client _ (fun _ => rfl) (fun _ => rfl)⟩ ?_
  refine bufferBranch_framesFrom ⟨_, frameGeolocation_frames .rssiSingleFrame .rssiMultiFrame _
    (fun _ => rfl) (fun _ => rfl),
    by rw [frameGeolocation_isTDOA .rssiSingleFrame .rssiMultiFrame _ false (fun _ => rfl)
      (fun _ => rfl), if_neg nofun],
    frameGeolocation_eq _ _ client _ (fun _ => rfl) (fun _ => rfl)⟩ ?_
  exact fun _ h => nomatch h

/-- When every enabled extractor succeeds, `geolocation` sends exactly the request the priority
rule picks (none when no strategy applies, and then no location), and reads a fix or
`ErrNoLocation` from the resolver's answer to it. -/
theorem geolocation_selects (unmarshal : String → Except GoError JsonObject) (i : Integration)
    (client : Client) (buf : List Frame) (pl : UplinkEvent) (bytes : List UInt8)
    (aps : List WifiAccessPoint)
    (hg : i.config.geolocationGNSS = true → getBytesFromJSONObject unmarshal
      i.config.geolocationGNSSPayloadField pl.objectJson = .ok bytes)
    (hw : i.config.geolocationWifi = true → getWifiAccessPointsFromJSONObject unmarshal
      i.config.geolocationWifiPayloadField pl.objectJson = .ok aps) :
    let g := geolocation unmarshal i client buf pl
    let sel := selectCall i.config buf pl bytes aps
    g.requests = sel.toList ∧ (sel = none → g.value = .ok ([], none)) ∧
      ∀ req, sel = some req →
        ((client req).err = none → g.value.location = .ok (some (client req).loc)) ∧
        ((client req).err = some .noLocation → g.value.location = .ok none) := by
  have hs := geolocationWith_sendsSelected i.config client buf pl bytes aps
  rw [geolocation_eq_with hg hw]
  cases hsel : selectCall i.config buf pl bytes aps with
  | none =>
    rw [hsel, SendsSelected] at hs
    simp [hs]
  | some req =>
    rw [hsel, SendsSelected] at hs
    refine ⟨hs.requests_eq, nofun, ?_⟩
    rintro _ ⟨⟩
    exact ⟨hs.of_fix, hs.of_noLocation⟩

theorem geolocation_selects_gnss :
    let rx : UplinkRXInfo := ⟨[1], [1], 1, 0, none, some (.plain 111)⟩
    let c : Config :=
      { geolocation := true, geolocationTDOA := true, geolocationGNSS := true,
        geolocationGNSSPayloadField := "lr1110_gnss" }
    let pl : UplinkEvent := ⟨1, "test-app", "test-device", [1, 2, 3, 4, 5, 6, 7, 8],
      [rx, rx, rx], 10, "\x7b\"lr1110_gnss\":\"AQID\"\x7d", []⟩
    let u : String → Except GoError JsonObject := fun str =>
      if str = "\x7b\"lr1110_gnss\":\"AQID\"\x7d" then .ok [("lr1110_gnss", .string "AQID")]
      else .error (.msg "invalid character")
    let client : Client := fun _ => ⟨⟨1, 2, 3, .GEO_RESOLVER_GNSS, 10⟩, none⟩
    (geolocation u ⟨c, ""⟩ client [[rx, rx, rx]] pl).requests =
      [.gnssLR1110SingleFrame [rx, rx, rx] false [1, 2, 3]] := by
  intro rx c pl u client
  exact (geolocation_selects u ⟨c, ""⟩ client [[rx, rx, rx]] pl [1, 2, 3] []
    (fun _ => rfl) (fun h => nomatch h)).1.trans rfl

/-- A reached extractor that fails ends `geolocation`: no request, no location, no error. -/
theorem geolocation_extract_error (unmarshal : String → Except GoError JsonObject)
    (i : Integration) (client : Client) (buf : List Frame) (pl : UplinkEvent)
    (h : (i.config.geolocationGNSS = true ∧ ∃ e, getBytesFromJSONObject unmarshal
          i.config.geolocationGNSSPayloadField pl.objectJson = .error e) ∨
      (i.config.geolocationWifi = true ∧ ∃ e, getWifiAccessPointsFromJSONObject unmarshal
          i.config.geolocationWifiPayloadField pl.objectJson = .error e) ∧
        (i.config.geolocationGNSS = true → getBytesFromJSONObject unmarshal
          i.config.geolocationGNSSPayloadField pl.objectJson = .ok [])) :
    geolocation unmarshal i client buf pl = ⟨[], .ok ([], none)⟩ := by
  unfold geolocation geolocationWith
  rcases h with ⟨hG, e, he⟩ | ⟨⟨hW, e, he⟩, hfall⟩
  · rw [hG, he, payloadBranch_error]
  · rw [payloadBranch_skip hfall, hW, he, payloadBranch_error]

theorem geolocation_extract_error_invalid_json :
    let rx : UplinkRXInfo := ⟨[1], [1], 1, 0, none, some (.plain 111)⟩
    let c : Config :=
      { geolocation := true, geolocationTDOA := true, geolocationGNSS := true,
        geolocationGNSSPayloadField := "lr1110_gnss" }
    let pl : UplinkEvent := ⟨1, "test-app", "test-device", [1, 2, 3, 4, 5, 6, 7, 8],
      [rx, rx, rx], 10, "lr1110", []⟩
    let u : String → Except GoError JsonObject := fun _ => .error (.msg "invalid character")
    let client : Client := fun _ => ⟨⟨1, 2, 3, .GEO_RESOLVER_TDOA, 10⟩, none⟩
    geolocation u ⟨c, ""⟩ client [[rx, rx, rx]] pl = ⟨[], .ok ([], none)⟩ := by
  intro rx c pl u client
  exact geolocation_extract_error u ⟨c, ""⟩ client [[rx, rx, rx]] pl
    (.inl ⟨rfl, .wrap "unmarshal json error" (.msg "invalid character"), rfl⟩)

/-- The GNSS field fails to decode next to a frame that TDOA resolves: `geolocation` sends
nothing, while with no GNSS data it would have sent the TDOA request. -/
theorem geolocation_gnss_error_skips_tdoa :
    let rx : UplinkRXInfo := ⟨[1], [1], 1, 0, none, some (.plain 111)⟩
    let c : Config :=
      { geolocation := true, geolocationTDOA := true, geolocationGNSS := true,
        geolocationGNSSPayloadField := "lr1110_gnss" }
    let pl : UplinkEvent := ⟨1, "test-app", "test-device", [1, 2, 3, 4, 5, 6, 7, 8],
      [rx, rx, rx], 10, "lr1110", []⟩
    let client : Client := fun _ => ⟨⟨1, 2, 3, .GEO_RESOLVER_TDOA, 10⟩, none⟩
    (geolocation (fun _ => .error (.msg "unexpected end of JSON input")) ⟨c, ""⟩ client
        [[rx, rx, rx]] pl).requests = [] ∧
      (geolocationWith (.ok []) (.ok []) c client [[rx, rx, rx]] pl).requests =
        [.tdoaSingleFrame [rx, rx, rx]] := by
  decide

end LoraCloud
