import LoraCloud.Basic
import LoraCloud.Base64
import LoraCloud.Json
import LoraCloud.Resolver
import LoraCloud.Geolocation
import LoraCloud.Integration
import LoraCloud.Runs
import LoraCloud.Interleaving
import LoraCloud.DeviceLock
