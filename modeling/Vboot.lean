import Vboot.Bdb.Rsa
import Vboot.Common.Backup
import Vboot.Common.KeyBlock
import Vboot.Common.ReadBack
import Vboot.Firmware.RoNormal
import Vboot.Gpt.Copies
import Vboot.Gpt.Layout
import Vboot.Host.Fmap
import Vboot.Host.Gbb
import Vboot.Kernel.Body
import Vboot.Kernel.DevBoot
import Vboot.Kernel.EcTrace
import Vboot.Kernel.MemoryImage
import Vboot.Kernel.SameStage
import Vboot.Kernel.Tries
import Vboot.Tpm.Bounds
import Vboot.Tpm.Delivery
import Vboot.Tpm.Ila
import Vboot.Tpm.Reference
import Vboot.Tpm.Transport
import Vboot.Vb2.Allocations
import Vboot.Vb2.BodyHash
import Vboot.Vb2.Boots
import Vboot.Vb2.Crc8
import Vboot.Vb2.DevSwitch
import Vboot.Vb2.Failures
import Vboot.Vb2.Fips
import Vboot.Vb2.HashBytes
import Vboot.Vb21.Bounds
