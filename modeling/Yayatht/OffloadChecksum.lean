import Yayatht.FrameDecoding

set_option autoImplicit false

namespace Yayatht.Checksum

end Yayatht.Checksum

namespace Yayatht.Packet
open Wire Checksum

/-- The kernel's part of `VIRTIO_NET_HDR_F_NEEDS_CSUM`: the checksum of the bytes from `start`
on is written at `start + offset`. -/
def Vnet.complete (body : Bytes) (start offset : ℕ) : Bytes :=
  patch body (start + offset) (be16 (checksum (body.drop start)))

namespace Tcp

variable {head old tail : Bytes}

end Tcp

namespace Tcp

variable {transport : Bytes → ℕ} {seed : ℕ → ℕ}

end Tcp

end Yayatht.Packet

namespace Yayatht.FrameBytes
open Wire Packet Checksum

variable {cfg : Config} {macs : Macs}

section Layers

variable {vnet link ip transport rest written header : Bytes} {ipLen : ℕ}

end Layers

end Yayatht.FrameBytes
