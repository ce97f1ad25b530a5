import Mathlib.Data.Rat.Defs

/-!
# The data of the LoRaCloud integration

The Go values the integration reads and produces: the uplink and location events of the
integration API, the gateway reception records (`gw.UplinkRXInfo`), the integration's
`Config`, and Go `error` values as the package builds and compares them.

Float64 fields (coordinates, SNR) are carried, never computed with, by the integration; they
are exact rationals here. Go's fixed-size byte arrays are `Bytes n`, whose length is part of
the type, and `copy` into such an array is `Bytes.copy`.
-/

namespace LoraCloud

/-- Go `error` values as this package produces and compares them. -/
inductive GoError where
  /-- `geolocation.ErrNoLocation`, compared by identity. -/
  | noLocation
  /-- An error from a collaborator or from `fmt.Errorf`, by its text. -/
  | msg (text : String)
  /-- `errors.Wrap(cause, context)`. -/
  | wrap (context : String) (cause : GoError)
  deriving DecidableEq, Repr

-- ---------------------------------------------------------------------------
-- Fixed-size byte arrays
-- ---------------------------------------------------------------------------

theorem uint8_toNat_ofNat (n : Nat) : (UInt8.ofNat n).toNat = n % 256 := by
  simp [UInt8.toNat, UInt8.ofNat]

theorem uint8_ofNat_eq {n : Nat} {a : UInt8} (h : n % 256 = a.toNat) : UInt8.ofNat n = a :=
  UInt8.toNat.inj (by rw [uint8_toNat_ofNat, h])

/-- `copy(dst[:], src)` into a zeroed `[n]byte`: the first `n` bytes of `src`, padded with
zeros when `src` is shorter. -/
def copyBytes (n : Nat) (src : List UInt8) : List UInt8 :=
  src.take n ++ List.replicate (n - src.length) 0

theorem copyBytes_length (n : Nat) (src : List UInt8) : (copyBytes n src).length = n := by
  simp only [copyBytes, List.length_append, List.length_take, List.length_replicate]
  omega

theorem copyBytes_of_length {src : List UInt8} (h : src.length = n) : copyBytes n src = src := by
  simp [copyBytes, h, List.take_of_length_le (Nat.le_of_eq h)]

/-- A Go `[n]byte` array. -/
structure Bytes (n : Nat) where
  toList : List UInt8
  length_eq : toList.length = n
  deriving DecidableEq, Repr

/-- `copy(a[:], src)` into a fresh `[n]byte` array `a`. -/
def Bytes.copy (src : List UInt8) : Bytes n := ⟨copyBytes n src, copyBytes_length n src⟩

@[simp] theorem Bytes.copy_self (a : Bytes n) : Bytes.copy a.toList = a := by
  cases a with
  | mk bytes h => simp [Bytes.copy, copyBytes_of_length h]

theorem Bytes.copy_eq_iff {src : List UInt8} (h : src.length = n) (a : Bytes n) :
    Bytes.copy src = a ↔ src = a.toList := by
  constructor
  · rintro rfl
    exact (copyBytes_of_length h).symm
  · rintro rfl
    exact Bytes.copy_self a

/-- `lorawan.EUI64`. -/
abbrev EUI64 := Bytes 8

/-- The six-byte MAC address of a WiFi access point. -/
abbrev BSSID := Bytes 6

-- ---------------------------------------------------------------------------
-- Gateway metadata and events
-- ---------------------------------------------------------------------------

/-- `common.LocationSource`. -/
inductive LocationSource where
  | UNKNOWN
  | GPS
  | CONFIG
  | GEO_RESOLVER_TDOA
  | GEO_RESOLVER_RSSI
  | GEO_RESOLVER_GNSS
  | GEO_RESOLVER_WIFI
  deriving DecidableEq, Repr

/-- `common.Location`. -/
structure Location where
  latitude : Rat
  longitude : Rat
  altitude : Rat
  source : LocationSource
  accuracy : UInt32
  deriving DecidableEq, Repr

/-- The `fine_timestamp` oneof of `gw.UplinkRXInfo`: encrypted by the gateway, or plain. -/
inductive FineTimestamp where
  | encrypted (encryptedNs : List UInt8)
  | plain (nanos : Int)
  deriving DecidableEq, Repr

/-- One gateway's reception of an uplink (`gw.UplinkRXInfo`). -/
structure UplinkRXInfo where
  gatewayId : List UInt8
  uplinkId : List UInt8
  rssi : Int
  loraSnr : Rat
  location : Option Location
  fineTimestamp : Option FineTimestamp
  deriving DecidableEq, Repr

/-- The receptions of one uplink (`[]*gw.UplinkRXInfo`); the geolocation buffer is a list of
frames, oldest first. -/
abbrev Frame := List UplinkRXInfo

/-- `integration.UplinkEvent`, with the fields the integration reads. -/
structure UplinkEvent where
  applicationId : UInt64
  applicationName : String
  deviceName : String
  devEui : List UInt8
  rxInfo : Frame
  fCnt : UInt32
  objectJson : String
  tags : List (String × String)
  deriving DecidableEq, Repr

/-- `integration.LocationEvent`. -/
structure LocationEvent where
  applicationId : UInt64
  applicationName : String
  deviceName : String
  devEui : List UInt8
  tags : List (String × String)
  location : Location
  uplinkIds : List (List UInt8)
  fCnt : UInt32
  deriving DecidableEq, Repr

/-- `geolocation.WifiAccessPoint`. -/
structure WifiAccessPoint where
  macAddress : BSSID
  signalStrength : Int
  deriving DecidableEq, Repr

-- ---------------------------------------------------------------------------
-- Configuration
-- ---------------------------------------------------------------------------

/-- The LoRaCloud integration configuration; the defaults are Go's zero values. -/
structure Config where
  geolocation : Bool := false
  geolocationBufferTTL : Int := 0
  geolocationMinBufferSize : Int := 0
  geolocationTDOA : Bool := false
  geolocationRSSI : Bool := false
  geolocationGNSS : Bool := false
  geolocationGNSSPayloadField : String := ""
  geolocationGNSSUseRxTime : Bool := false
  geolocationWifi : Bool := false
  geolocationWifiPayloadField : String := ""
  deriving DecidableEq, Repr

/-- A LoRaCloud integration. -/
structure Integration where
  config : Config
  geolocationURI : String
  deriving DecidableEq, Repr

/-- `New`: the integration for a configuration, against the production resolver. -/
def Integration.new (conf : Config) : Integration :=
  { config := conf, geolocationURI := "https://gls.loracloud.com" }

end LoraCloud
