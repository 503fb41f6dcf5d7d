import ChatBoard.Octets

/-!
# The default avatar

The picture that every account starts with, its name and its octets. It is kept as image 1.
-/

namespace ChatBoard.DefaultAvatar

/-- The name under which the picture is stored. -/
def name : String := "default.png"

/-- The octets of the picture. -/
def data : Octets :=
  [0xef, 0xbf, 0xbd, 0x50, 0x4e, 0x47, 0x0d, 0x0a, 0x1a, 0x0a, 0x00, 0x00, 0x00, 0x0d, 0x49,
    0x48, 0x44, 0x52, 0x00, 0x00, 0x00, 0x20, 0x00, 0x00, 0x00, 0x20, 0x08, 0x02, 0x00, 0x00,
    0x00, 0xef, 0xbf, 0xbd, 0x18, 0xef, 0xbf, 0xbd, 0xef, 0xbf, 0xbd, 0x00, 0x00, 0x00, 0x27,
    0x49, 0x44, 0x41, 0x54, 0x78, 0xef, 0xbf, 0xbd, 0xef, 0xbf, 0xbd, 0xef, 0xbf, 0xbd, 0x31,
    0x0d, 0x00, 0x00, 0x0c, 0x03, 0xef, 0xbf, 0xbd, 0xef, 0xbf, 0xbd, 0xef, 0xbf, 0xbd, 0x56,
    0x51, 0x55, 0xef, 0xbf, 0xbd, 0x63, 0x09, 0x18, 0x20, 0x3d, 0x16, 0xef, 0xbf, 0xbd, 0x40,
    0x20, 0x10, 0x08, 0x04, 0x02, 0xef, 0xbf, 0xbd, 0x40, 0xef, 0xbf, 0xbd, 0x25, 0x18, 0x71,
    0xe4, 0x90, 0x88, 0xef, 0xbf, 0xbd, 0xef, 0xbf, 0xbd, 0xef, 0xbf, 0xbd, 0x7a, 0x00, 0x00,
    0x00, 0x00, 0x49, 0x45, 0x4e, 0x44, 0xef, 0xbf, 0xbd, 0x42, 0x60, 0xef, 0xbf, 0xbd]

end ChatBoard.DefaultAvatar
