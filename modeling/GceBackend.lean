import GceBackend.Basic
import GceBackend.Image
import GceBackend.Instance
import GceBackend.Config
import GceBackend.Upload
import GceBackend.Start
import GceBackend.StartInv
import GceBackend.StartLog
import GceBackend.Cancel
import GceBackend.Stop
import GceBackend.Provider
