import Vart.Machine.VirtFdtLinks
import Vart.Machine.VirtLoader
import Vart.Lib.Hex
import Vart.Char.Console
import Vart.Char.UartIrq
import Vart.Cli
import Vart.Core.Topology
import Vart.Event.Sync
import Vart.Iommu.Format
import Vart.Iommu.Transparency
import Vart.Iommu.Isolation
import Vart.Kvm.Kick
import Vart.Kvm.Coherence
import Vart.Kvm.MsixIrqfd
import Vart.Machine.Attach
import Vart.Machine.Hookup
import Vart.Riscv.Contexts
import Vart.Pci.Capabilities
import Vart.Pci.HostWindow
import Vart.Pci.Intx
import Vart.Pci.MsixControl
import Vart.Pci.Delivery
import Vart.Pci.Routing
import Vart.Pci.Slots
import Vart.Riscv.CommandQueue
import Vart.Riscv.Directory
import Vart.Riscv.Attribution
import Vart.Riscv.Invalidation
import Vart.Riscv.Msi
import Vart.Riscv.Sbi
import Vart.Virtio.BlkData
import Vart.Virtio.Chain
import Vart.Virtio.Completion
import Vart.Virtio.DeviceReset
import Vart.Virtio.RingOrder
import Vart.Virtio.RxInterest
import Vart.Virtio.RxOnce
import Vart.Virtio.TxFrame
import Vart.Machine.BootFiles
import Vart.Machine.Exec
import Vart.Virtio.Ioeventfd
