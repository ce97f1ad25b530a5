import LoraCloud.Base64
import Mathlib.Data.List.Forall2

/-!
# Reading the device's decoded object

`getBytesFromJSONObject` (the GNSS payload) and `getWifiAccessPointsFromJSONObject` (the WiFi
access points) decode the uplink's `ObjectJson` into a `map[string]interface{}` and read one
field of it. `encoding/json` is not part of the package: `json.Unmarshal` into a map is a
parameter `unmarshal` of the extractors, and everything after it is modelled. A JSON number is
the float64 the decoder produced, held as the rational it denotes; `int(ss)` is Go's conversion
on amd64 (`goInt`).

The two extractors share their first steps (`fromJSONObject`): an empty string and a missing
field are no data, a decode error is wrapped. Then the GNSS extractor base64-decodes a string,
and the WiFi extractor reads a list of `{macAddress, signalStrength}` objects, copying each
decoded MAC into a six-byte array. That copy pads a short MAC with zeros and cuts a long one
(`accessPoints_short_mac`); the extractor never checks the length. A bad element fails the
whole list with the error of the first one (`getWifiAccessPointsFromJSONObject_eq_error`).
-/
namespace LoraCloud

/-- A JSON value as `encoding/json` decodes it into `interface{}`; a number is the float64 the
decoder produced, as the rational it denotes. -/
inductive Json where
  | null
  | bool (b : Bool)
  | number (n : Rat)
  | string (s : String)
  | array (xs : List Json)
  | object (kvs : List (String × Json))
  deriving Repr

/-- `%T` of a decoded value. -/
def Json.goType : Json → String
  | .null => "<nil>"
  | .bool _ => "bool"
  | .number _ => "float64"
  | .string _ => "string"
  | .array _ => "[]interface {}"
  | .object _ => "map[string]interface {}"

/-- A decoded `map[string]interface{}`. -/
abbrev JsonObject := List (String × Json)

/-- `m[key]` on a `map[string]interface{}`: a missing key reads as `nil`. -/
def mapIndex (m : JsonObject) (key : String) : Json := (m.lookup key).getD .null

/-- Go's `int(x)` of a float64 on amd64: truncation toward zero into 64 bits; out of range,
`CVTTSD2SI` gives the indefinite integer `math.MinInt64`. -/
def goInt (x : Rat) : Int :=
  let t := x.num.tdiv x.den
  if -9223372036854775808 ≤ t ∧ t < 9223372036854775808 then t else -9223372036854775808

theorem goInt_intCast {n : Int} (h : -9223372036854775808 ≤ n ∧ n < 9223372036854775808) :
    goInt n = n := by
  simp [goInt, h]

/-- `base64.CorruptInputError`, without the offset of the corrupt byte. -/
def corruptInputError : GoError := .msg "illegal base64 data"

-- ---------------------------------------------------------------------------
-- The extractors
-- ---------------------------------------------------------------------------

/-- The field lookup both extractors make on the decoded object: a missing field is no data. -/
def fieldFromObject (decodeField : Json → Except GoError (List α)) (field : String)
    (v : JsonObject) : Except GoError (List α) :=
  match v.lookup field with
  | none => .ok []
  | some vv => decodeField vv

/-- The steps `getBytesFromJSONObject` and `getWifiAccessPointsFromJSONObject` share. -/
def fromJSONObject (decodeField : Json → Except GoError (List α))
    (unmarshal : String → Except GoError JsonObject) (field jsonStr : String) :
    Except GoError (List α) :=
  if jsonStr = "" then .ok []
  else
    match unmarshal jsonStr with
    | .error err => .error (.wrap "unmarshal json error" err)
    | .ok v => fieldFromObject decodeField field v

/-- The GNSS field: a base64 string. -/
def stringBytes : Json → Except GoError (List UInt8)
  | .string str =>
    match Base64.decodeString str with
    | some b => .ok b
    | none => .error (.wrap "base64 decode error" corruptInputError)
  | vv => .error (.msg ("expected string, got " ++ vv.goType))

/-- One element of the WiFi field. -/
def accessPoint : Json → Except GoError WifiAccessPoint
  | .object vvv =>
    match mapIndex vvv "macAddress" with
    | .string bssid =>
      match Base64.decodeString bssid with
      | none => .error (.wrap "base64 decode error" corruptInputError)
      | some b =>
        match mapIndex vvv "signalStrength" with
        | .number ss => .ok { macAddress := Bytes.copy b, signalStrength := goInt ss }
        | v => .error (.msg ("signalStrength must be a float64, got: " ++ v.goType))
    | v => .error (.msg ("macAddress must be a string, got: " ++ v.goType))
  | x => .error (.msg ("expected key / value map, got: " ++ x.goType))

/-- The WiFi field: a list of access-point objects, read in order; the first bad element
fails the whole list. -/
def accessPoints : Json → Except GoError (List WifiAccessPoint)
  | .array aps => aps.mapM accessPoint
  | vv => .error (.msg ("field content must be a list of objects, got: " ++ vv.goType))

def getBytesFromJSONObject (unmarshal : String → Except GoError JsonObject)
    (field jsonStr : String) : Except GoError (List UInt8) :=
  fromJSONObject stringBytes unmarshal field jsonStr

def getWifiAccessPointsFromJSONObject (unmarshal : String → Except GoError JsonObject)
    (field jsonStr : String) : Except GoError (List WifiAccessPoint) :=
  fromJSONObject accessPoints unmarshal field jsonStr

/-- Both extractors fail exactly when the object string is not empty and does not decode, with
the decoder's error wrapped, or decodes to an object whose field holds a value the field's
reader rejects, with that reader's error. -/
theorem fromJSONObject_eq_error {decodeField : Json → Except GoError (List α)}
    {unmarshal : String → Except GoError JsonObject} {field jsonStr : String} {e : GoError} :
    fromJSONObject decodeField unmarshal field jsonStr = .error e ↔
      jsonStr ≠ "" ∧
        ((∃ err, unmarshal jsonStr = .error err ∧ e = .wrap "unmarshal json error" err) ∨
          ∃ v vv, unmarshal jsonStr = .ok v ∧ v.lookup field = some vv ∧
            decodeField vv = .error e) := by
  unfold fromJSONObject
  by_cases hj : jsonStr = ""
  · simp [hj]
  cases hu : unmarshal jsonStr with
  | error err => simp [hj, eq_comm]
  | ok v =>
    simp only [hj, if_false, fieldFromObject, ne_eq, not_false_eq_true, true_and,
      reduceCtorEq, false_and, exists_false, false_or, Except.ok.injEq, exists_eq_left']
    cases hl : v.lookup field <;> simp [hl]

-- ---------------------------------------------------------------------------
-- What the GNSS extractor accepts
-- ---------------------------------------------------------------------------

theorem stringBytes_eq_ok {x : Json} {bs : List UInt8} :
    stringBytes x = .ok bs ↔ ∃ str, x = .string str ∧ Base64.decodeString str = some bs := by
  cases x with
  | string str =>
    cases hd : Base64.decodeString str <;> simp [stringBytes, hd]
  | _ => simp [stringBytes]

/-- The GNSS extractor gives bytes exactly when the object is empty (no bytes), or decodes and
lacks the field (no bytes), or has it as a string that base64-decodes to them. -/
theorem getBytesFromJSONObject_eq_ok (unmarshal : String → Except GoError JsonObject)
    (field jsonStr : String) (bs : List UInt8) :
    getBytesFromJSONObject unmarshal field jsonStr = .ok bs ↔
      (jsonStr = "" ∧ bs = []) ∨
      (jsonStr ≠ "" ∧ ∃ v, unmarshal jsonStr = .ok v ∧
        ((v.lookup field = none ∧ bs = []) ∨
          ∃ str, v.lookup field = some (.string str) ∧ Base64.decodeString str = some bs)) := by
  unfold getBytesFromJSONObject fromJSONObject
  by_cases hj : jsonStr = ""
  · simp [hj]
  cases hu : unmarshal jsonStr with
  | error err => simp [hj, hu]
  | ok v =>
    simp only [hj, if_false, hu, fieldFromObject, false_and, false_or, ne_eq, not_false_eq_true,
      true_and, Except.ok.injEq, exists_eq_left']
    cases v.lookup field with
    | none => simp
    | some vv => simp [stringBytes_eq_ok]

theorem stringBytes_eq_error {x : Json} {e : GoError} :
    stringBytes x = .error e ↔
      ((∀ str, x ≠ .string str) ∧ e = .msg ("expected string, got " ++ x.goType)) ∨
      ∃ str, x = .string str ∧ Base64.decodeString str = none ∧
        e = .wrap "base64 decode error" corruptInputError := by
  cases x with
  | string str => cases hd : Base64.decodeString str <;> simp [stringBytes, hd, eq_comm]
  | _ => simp [stringBytes, eq_comm]

theorem getBytesFromJSONObject_eq_error (unmarshal : String → Except GoError JsonObject)
    (field jsonStr : String) (e : GoError) :
    getBytesFromJSONObject unmarshal field jsonStr = .error e ↔
      jsonStr ≠ "" ∧
        ((∃ err, unmarshal jsonStr = .error err ∧ e = .wrap "unmarshal json error" err) ∨
          ∃ v vv, unmarshal jsonStr = .ok v ∧ v.lookup field = some vv ∧
            (((∀ str, vv ≠ .string str) ∧ e = .msg ("expected string, got " ++ vv.goType)) ∨
              ∃ str, vv = .string str ∧ Base64.decodeString str = none ∧
                e = .wrap "base64 decode error" corruptInputError)) := by
  simp only [getBytesFromJSONObject, fromJSONObject_eq_error, stringBytes_eq_error]

-- ---------------------------------------------------------------------------
-- What the WiFi extractor accepts
-- ---------------------------------------------------------------------------

theorem bind_ok {x : Except ε α} {f : α → Except ε β} :
    x >>= f = .ok b ↔ ∃ a, x = .ok a ∧ f a = .ok b := by
  cases x <;> simp [bind, Except.bind]

theorem mapM_eq_ok_iff {f : α → Except ε β} {xs : List α} {ys : List β} :
    xs.mapM f = .ok ys ↔ List.Forall₂ (fun x y => f x = .ok y) xs ys := by
  induction xs generalizing ys with
  | nil =>
    show (pure [] : Except ε _) = _ ↔ _
    simp [pure, Except.pure, List.forall₂_nil_left_iff, eq_comm]
  | cons x xs ih =>
    simp only [List.mapM_cons, bind_ok, ih, List.forall₂_cons_left_iff, pure, Except.pure,
      Except.ok.injEq]
    constructor
    · rintro ⟨a, hx, zs, hr, rfl⟩
      exact ⟨a, zs, hx, hr, rfl⟩
    · rintro ⟨a, zs, hx, hr, rfl⟩
      exact ⟨a, hx, zs, hr, rfl⟩

theorem bind_pure_eq_error {x : Except ε α} {g : α → β} {e : ε} :
    (x >>= fun a => pure (g a)) = .error e ↔ x = .error e := by
  cases x <;> simp [bind, Except.bind, pure, Except.pure]

/-- `mapM` in `Except` fails with the error of the first element that fails. -/
theorem mapM_eq_error_iff {f : α → Except ε β} {xs : List α} {e : ε} :
    xs.mapM f = .error e ↔ ∃ pre x post, xs = pre ++ x :: post ∧
      (∀ y ∈ pre, ∃ b, f y = .ok b) ∧ f x = .error e := by
  induction xs with
  | nil =>
    show (pure [] : Except ε (List β)) = _ ↔ _
    simp [pure, Except.pure]
  | cons x xs ih =>
    simp only [List.mapM_cons, List.cons_eq_append_iff]
    cases hx : f x with
    | error e' =>
      constructor
      · rintro ⟨⟩
        exact ⟨[], x, xs, .inl ⟨rfl, rfl⟩, nofun, hx⟩
      · rintro ⟨pre, y, post, ⟨rfl, h⟩ | ⟨pre', rfl, -⟩, hpre, hy⟩
        · obtain ⟨rfl, -⟩ := List.cons.inj h
          exact hx ▸ hy ▸ rfl
        · obtain ⟨b, hb⟩ := hpre x (List.mem_cons_self _ _)
          simp [hx] at hb
    | ok b =>
      change (xs.mapM f >>= fun bs => pure (b :: bs)) = .error e ↔ _
      rw [bind_pure_eq_error, ih]
      constructor
      · rintro ⟨pre, y, post, rfl, hpre, hy⟩
        exact ⟨x :: pre, y, post, .inr ⟨pre, rfl, rfl⟩,
          fun z hz => (List.mem_cons.mp hz).elim (fun h => h ▸ ⟨b, hx⟩) (hpre z), hy⟩
      · rintro ⟨pre, y, post, ⟨rfl, h⟩ | ⟨pre', rfl, rfl⟩, hpre, hy⟩
        · obtain ⟨rfl, -⟩ := List.cons.inj h
          simp [hx] at hy
        · exact ⟨pre', y, post, rfl, fun z hz => hpre z (List.mem_cons_of_mem _ hz), hy⟩

theorem accessPoint_eq_ok {x : Json} {ap : WifiAccessPoint} :
    accessPoint x = .ok ap ↔ ∃ vvv bssid b ss, x = .object vvv ∧
      mapIndex vvv "macAddress" = .string bssid ∧ Base64.decodeString bssid = some b ∧
      mapIndex vvv "signalStrength" = .number ss ∧ ap = ⟨Bytes.copy b, goInt ss⟩ := by
  constructor
  · intro h
    unfold accessPoint at h
    split at h
    · rename_i vvv
      split at h
      · rename_i bssid hm
        split at h
        · exact nomatch h
        · rename_i b hb
          split at h
          · rename_i ss hs
            exact ⟨vvv, bssid, b, ss, rfl, hm, hb, hs, (Except.ok.inj h).symm⟩
          · exact nomatch h
      · exact nomatch h
    · exact nomatch h
  · rintro ⟨vvv, bssid, b, ss, rfl, hm, hb, hs, rfl⟩
    simp [accessPoint, hm, hb, hs]

theorem accessPoint_eq_error {x : Json} {e : GoError} :
    accessPoint x = .error e ↔
      ((∀ vvv, x ≠ .object vvv) ∧ e = .msg ("expected key / value map, got: " ++ x.goType)) ∨
      ∃ vvv, x = .object vvv ∧
        (((∀ bssid, mapIndex vvv "macAddress" ≠ .string bssid) ∧
            e = .msg ("macAddress must be a string, got: " ++ (mapIndex vvv "macAddress").goType)) ∨
          ∃ bssid, mapIndex vvv "macAddress" = .string bssid ∧
            ((Base64.decodeString bssid = none ∧
                e = .wrap "base64 decode error" corruptInputError) ∨
              (Base64.decodeString bssid ≠ none ∧
                (∀ ss, mapIndex vvv "signalStrength" ≠ .number ss) ∧
                e = .msg ("signalStrength must be a float64, got: " ++
                  (mapIndex vvv "signalStrength").goType)))) := by
  cases x with
  | object vvv =>
    simp only [accessPoint, ne_eq, reduceCtorEq, not_false_eq_true, implies_true, true_and,
      Json.object.injEq, exists_eq_left', false_and, false_or]
    cases hm : mapIndex vvv "macAddress" with
    | string bssid =>
      cases hb : Base64.decodeString bssid with
      | none => simp [hb, eq_comm]
      | some b => cases mapIndex vvv "signalStrength" <;> simp [hb, eq_comm]
    | _ => simp [eq_comm]
  | _ => simp [accessPoint, eq_comm]

theorem accessPoints_eq_ok {xs : List Json} {L : List WifiAccessPoint} :
    accessPoints (.array xs) = .ok L ↔ List.Forall₂ (fun x ap => ∃ vvv bssid b ss,
      x = .object vvv ∧ mapIndex vvv "macAddress" = .string bssid ∧
      Base64.decodeString bssid = some b ∧ mapIndex vvv "signalStrength" = .number ss ∧
      ap = ⟨Bytes.copy b, goInt ss⟩) xs L := by
  simp only [accessPoints, mapM_eq_ok_iff, accessPoint_eq_ok]

theorem accessPoints_eq_error {x : Json} {e : GoError} :
    accessPoints x = .error e ↔
      ((∀ xs, x ≠ .array xs) ∧
        e = .msg ("field content must be a list of objects, got: " ++ x.goType)) ∨
      ∃ pre y post, x = .array (pre ++ y :: post) ∧ (∀ z ∈ pre, ∃ ap, accessPoint z = .ok ap) ∧
        accessPoint y = .error e := by
  cases x with
  | array xs =>
    rw [accessPoints, mapM_eq_error_iff]
    simp
  | _ => simp [accessPoints, eq_comm]

/-- A MAC address that decodes to three bytes is accepted, padded with zeros to six. -/
theorem accessPoints_short_mac :
    Base64.decodeString "AQID" = some [1, 2, 3] ∧
    fieldFromObject accessPoints "wifi_aps"
        [("wifi_aps", .array [.object [("macAddress", .string "AQID"),
          ("signalStrength", .number (-10))]])] =
      .ok [⟨⟨[1, 2, 3, 0, 0, 0], rfl⟩, -10⟩] :=
  ⟨by decide, rfl⟩

-- ---------------------------------------------------------------------------
-- Round trips
-- ---------------------------------------------------------------------------

/-- The object a device reports for one access point: the MAC in base64 and the signal
strength as a number. -/
def accessPointJson (ap : WifiAccessPoint) : Json :=
  .object [("macAddress", .string (Base64.encodeToString ap.macAddress.toList)),
    ("signalStrength", .number ap.signalStrength)]

theorem accessPoint_accessPointJson {ap : WifiAccessPoint}
    (h : ap.signalStrength.natAbs ≤ 9007199254740992) :
    accessPoint (accessPointJson ap) = .ok ap := by
  have hr : -9223372036854775808 ≤ ap.signalStrength ∧ ap.signalStrength < 9223372036854775808 := by
    omega
  simp [accessPoint, accessPointJson, mapIndex, List.lookup_cons,
    Base64.decodeString_encodeToString, goInt_intCast hr]

/-- Once the object string has decoded, the WiFi extractor gives a non-empty list exactly when
the field is a non-empty array of objects, each with a base64 `macAddress` and a numeric
`signalStrength`. The list holds them in array order, each MAC the decoded bytes copied into
six (padded with zeros or cut) and each signal strength the number converted by `int`. The JSON
encoding of any list of access points whose signal strengths are float64s exactly (at most 2^53
in magnitude) extracts to that list. -/
theorem getWifiAccessPointsFromJSONObject_eq_ok (unmarshal : String → Except GoError JsonObject)
    (field jsonStr : String) (v : JsonObject) (hj : jsonStr ≠ "")
    (hv : unmarshal jsonStr = .ok v) (L : List WifiAccessPoint) :
    (getWifiAccessPointsFromJSONObject unmarshal field jsonStr = .ok L ∧ L ≠ [] ↔
      ∃ xs, v.lookup field = some (.array xs) ∧ xs ≠ [] ∧
        List.Forall₂ (fun x ap => ∃ vvv bssid b ss, x = .object vvv ∧
          mapIndex vvv "macAddress" = .string bssid ∧ Base64.decodeString bssid = some b ∧
          mapIndex vvv "signalStrength" = .number ss ∧ ap = ⟨Bytes.copy b, goInt ss⟩) xs L) ∧
    ∀ aps : List WifiAccessPoint, (∀ ap ∈ aps, ap.signalStrength.natAbs ≤ 9007199254740992) →
      v.lookup field = some (.array (aps.map accessPointJson)) →
      getWifiAccessPointsFromJSONObject unmarshal field jsonStr = .ok aps := by
  simp only [getWifiAccessPointsFromJSONObject, fromJSONObject, hj, if_false, hv, fieldFromObject]
  refine ⟨?_, fun aps hb hl => ?_⟩
  · cases v.lookup field with
    | none => simp
    | some vv =>
      cases vv with
      | array xs =>
        rw [accessPoints_eq_ok]
        constructor
        · rintro ⟨h, hL⟩
          exact ⟨xs, rfl, fun hx => hL (List.forall₂_nil_left_iff.mp (hx ▸ h)), h⟩
        · rintro ⟨_, ⟨⟩, hx, h⟩
          exact ⟨h, fun hL => hx (List.forall₂_nil_right_iff.mp (hL ▸ h))⟩
      | _ => simp [accessPoints]
  · simp only [hl, accessPoints, mapM_eq_ok_iff, List.forall₂_map_left_iff]
    exact List.forall₂_same.mpr fun ap hap => accessPoint_accessPointJson (hb ap hap)

theorem getWifiAccessPointsFromJSONObject_eq_ok_two_aps :
    let aps : List WifiAccessPoint := [⟨⟨[1, 2, 3, 4, 5, 6], rfl⟩, -52⟩, ⟨⟨[6, 5, 4, 3, 2, 1], rfl⟩, -80⟩]
    let v : JsonObject := [("wifi_aps", .array (aps.map accessPointJson))]
    let unmarshal : String → Except GoError JsonObject := fun str =>
      if str = "\x7b\"wifi_aps\":[\x7b\"macAddress\":\"AQIDBAUG\",\"signalStrength\":-52\x7d,\x7b\"macAddress\":\"BgUEAwIB\",\"signalStrength\":-80\x7d]\x7d"
      then .ok v else .error (.msg "invalid character")
    let jsonStr :=
      "\x7b\"wifi_aps\":[\x7b\"macAddress\":\"AQIDBAUG\",\"signalStrength\":-52\x7d,\x7b\"macAddress\":\"BgUEAwIB\",\"signalStrength\":-80\x7d]\x7d"
    jsonStr ≠ "" ∧ unmarshal jsonStr = .ok v ∧
      getWifiAccessPointsFromJSONObject unmarshal "wifi_aps" jsonStr = .ok aps := by
  intro aps v unmarshal jsonStr
  exact ⟨by decide, rfl, (getWifiAccessPointsFromJSONObject_eq_ok unmarshal "wifi_aps" jsonStr v
    (by decide) rfl []).2 aps (by decide) rfl⟩

/-- A field that holds the base64 encoding of some bytes extracts to those bytes. -/
theorem fieldFromObject_stringBytes_encode (field : String) (v : JsonObject) (bs : List UInt8)
    (h : v.lookup field = some (.string (Base64.encodeToString bs))) :
    fieldFromObject stringBytes field v = .ok bs := by
  simp [fieldFromObject, h, stringBytes, Base64.decodeString_encodeToString]

theorem fieldFromObject_stringBytes_encode_gnss :
    [("lr1110_gnss", Json.string "AQID")].lookup "lr1110_gnss" =
        some (.string (Base64.encodeToString [1, 2, 3])) ∧
      fieldFromObject stringBytes "lr1110_gnss" [("lr1110_gnss", .string "AQID")] = .ok [1, 2, 3] :=
  ⟨rfl, fieldFromObject_stringBytes_encode _ _ _ rfl⟩

end LoraCloud
