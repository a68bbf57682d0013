import DotMatrix.Snapshot.Devices
import DotMatrix.Video.Basic

/-!
# The picture unit in snapshots

Memories and registers in the order of the record, with the block transfer, the shades and the
layers as records inside it. The host's picture and tint and the resolved colours are not written.
-/

namespace DotMatrix

namespace Codec

/-- A colour of the host. -/
def rgb : Codec Rgb where
  write c := .list [byte.write c.red, byte.write c.green, byte.write c.blue]
  read i := do
    match ← row? 3 i with
    | [red, green, blue] => return ⟨← byte.read red, ← byte.read green, ← byte.read blue⟩
    | _ => none

/-- Four shades. -/
def shades : Codec Shades where
  write s := .list (s.toList.map rgb.write)
  read i := do
    match ← row? 4 i with
    | [a, b, c, d] =>
      return .ofFour (← rgb.read a) (← rgb.read b) (← rgb.read c) (← rgb.read d)
    | _ => none

/-- The shades of every layer. -/
def palette : Codec Palette :=
  (record <| shades.field "bg" <| shades.field "obj0" <| shades.lastField "obj1").view
    (fun p => (p.bg, p.obj0, p.obj1))
    (fun (bg, obj0, obj1) => { bg, obj0, obj1 })

/-- The switches of the layers. Layers are on unless switched off. -/
def layers : Codec Layers :=
  (record <|
    flag.fieldOr "bg" (some true) <| flag.fieldOr "win" (some true) <|
      flag.lastFieldOr "obj" (some true)).view
    (fun l => (l.bg, l.win, l.obj)) (fun (bg, win, obj) => { bg, win, obj })

/-- The block transfer. -/
def transfer : Codec BlockTransfer :=
  (record <|
    byte.field "src_hi" <| byte.field "src_lo" <| byte.field "dst_hi" <| byte.field "dst_lo" <|
      word.field "src" <| word.field "dst" <| word.field "length" <| byte.lastField "hdma5").view
    (fun t => (t.sourceHigh, t.sourceLow, t.targetHigh, t.targetLow, t.source, t.target, t.length,
      t.status))
    (fun (sourceHigh, sourceLow, targetHigh, targetLow, source, target, length, status) =>
      { sourceHigh, sourceLow, targetHigh, targetLow, source, target, length, status })

/-- The picture unit. -/
def video : Codec Video :=
  (record <|
    memory.field "vram" <| (bytes 0xA0).field "oam" <| byte.field "vbk" <| model.field "system" <|
      byte.field "lcdc" <| byte.field "stat" <| byte.field "scy" <| byte.field "scx" <|
      byte.field "ly" <| byte.field "lyc" <| flag.field "coincidence" <| byte.field "dma" <|
      byte.field "bgp" <| byte.field "obp0" <| byte.field "obp1" <| byte.field "wy" <|
      byte.field "wx" <| byte.field "window_line" <| byte.field "bcps" <|
      (bytes 0x40).field "bg_cram" <| byte.field "ocps" <| (bytes 0x40).field "obj_cram" <|
      byte.field "opri" <| countdown.field "next_cycles" <| byte.field "mode" <|
      flag.field "stat_line" <| transfer.field "hdma" <| palette.field "palette" <|
      layers.lastField "layers").view
    (fun v => (v.vram, v.oam, v.vbk, v.model, v.lcdc, v.stat, v.scy, v.scx, v.ly, v.lyc,
      v.coincidence, v.dma, v.bgp, v.obp0, v.obp1, v.wy, v.wx, v.windowLine, v.bcps, v.bgColours,
      v.ocps, v.objColours, v.opri, v.nextCycles, v.mode, v.statLine, v.transfer, v.palette,
      v.layers))
    (fun (vram, oam, vbk, model, lcdc, stat, scy, scx, ly, lyc, coincidence, dma, bgp, obp0, obp1,
        wy, wx, windowLine, bcps, bgColours, ocps, objColours, opri, nextCycles, mode, statLine,
        transfer, palette, layers) =>
      { Video.unpowered model with
        vram, oam, vbk, lcdc, stat, scy, scx, ly, lyc, coincidence, dma, bgp, obp0, obp1, wy, wx,
        windowLine, bcps, bgColours, ocps, objColours, opri, nextCycles, mode, statLine, transfer,
        palette, layers })

end Codec

end DotMatrix
