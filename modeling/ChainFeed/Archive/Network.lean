/-!
# Archive networks
-/

namespace ChainFeed.Archive

/-- The REST endpoint of an archive network, if it is one of the known ones. -/
def defaultEndpoint? (network : String) : Option String :=
  if network = "kyve-1" then some "https://api.kyve.network"
  else if network = "kaon-1" then some "https://api.kaon.kyve.network"
  else if network = "korellia-2" then some "https://api.korellia.kyve.network"
  else none

end ChainFeed.Archive
