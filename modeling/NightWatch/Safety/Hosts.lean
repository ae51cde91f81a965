import NightWatch.Lib.JsRuntime

namespace NightWatch.Safety.Hosts

open Lib.JsText Lib.JsRuntime

def knownProductionHosts : List JsString :=
  ["api.alphaus.cloud".toList, "bluerpc.alphaus.cloud".toList, "blue.alphaus.cloud".toList,
    "login.alphaus.cloud".toList, "app.alphaus.cloud".toList, "service.mobingi.com".toList,
    "login.mobingi.com".toList, "app.mobingi.com".toList]

def localHosts : List JsString :=
  ["localhost".toList, "127.0.0.1".toList, "::1".toList, "[::1]".toList]

def cloudRunSuffix : JsString := ".run.app".toList

def isKnownProductionHost (rt : Runtime) (host : JsString) : Bool :=
  (knownProductionHosts.map rt.toLowerCase).contains (rt.toLowerCase host)

/-- A Cloud Run host: `run.app` or a name under it. -/
def isCloudRunHost (hostname : JsString) : Bool :=
  hostname = cloudRunSuffix.drop 1 || endsWith hostname cloudRunSuffix

theorem knownProductionHosts_lower (rt : Runtime) :
    knownProductionHosts.map rt.toLowerCase = knownProductionHosts := by
  have hlower : ∀ host ∈ knownProductionHosts, IsLowerAscii host := by decide
  conv_rhs => rw [← List.map_id knownProductionHosts]
  apply List.map_congr_left
  intro host hhost
  exact toLowerCase_of_isLowerAscii rt (hlower host hhost)

theorem isKnownProductionHost_iff (rt : Runtime) {host : JsString} (hhost : IsLowerAscii host) :
    isKnownProductionHost rt host = true ↔ host ∈ knownProductionHosts := by
  rw [isKnownProductionHost, knownProductionHosts_lower, toLowerCase_of_isLowerAscii rt hhost]
  exact List.contains_iff_mem

end NightWatch.Safety.Hosts
