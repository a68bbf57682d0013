/-!
# Samples and mixing

A sample is what the host gets: every channel as a pair of signed values, left and right, and the
two master volumes. `Sample.mix` adds the channels of a side and scales the sum.
-/

namespace DotMatrix

/-- A left and a right value. -/
structure Stereo where
  left : Int := 0
  right : Int := 0
  deriving DecidableEq, Repr, Inhabited

/-- One sample: the channels after panning, and the master volumes, 1 to 8 while there is power. -/
structure Sample where
  ch1 : Stereo := {}
  ch2 : Stereo := {}
  ch3 : Stereo := {}
  ch4 : Stereo := {}
  leftVolume : Int := 0
  rightVolume : Int := 0
  deriving DecidableEq, Repr, Inhabited

namespace Sample

/-- The scale of mixed output, in eighths. -/
def volumeScale : Int := 64

/-- One side of the mix. -/
def mixSide (a b c d volume : Int) : Int :=
  ((a + b + c + d) * volume * volumeScale).tdiv 8

/-- The channels mixed into one pair. -/
def mix (s : Sample) : Stereo :=
  { left := mixSide s.ch1.left s.ch2.left s.ch3.left s.ch4.left s.leftVolume
    right := mixSide s.ch1.right s.ch2.right s.ch3.right s.ch4.right s.rightVolume }

/-- The two bytes of a value of 16 bits, low byte first. -/
def valueBytes (n : Int) : List UInt8 :=
  [(n % 256).toNat.toUInt8, (n / 256 % 256).toNat.toUInt8]

/-- The mix as it is written to a file, left before right. -/
def bytes (s : Sample) : List UInt8 :=
  valueBytes s.mix.left ++ valueBytes s.mix.right

end Sample

end DotMatrix
