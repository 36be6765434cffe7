/-!
Probabilities of one motion vector component. Of the nineteen, entry 0 tells short from long
magnitudes, entry 1 is the sign, entries 2 to 8 decide the code of short magnitudes and
entries 9 to 18 the ten bits of long ones.
-/
namespace Vp8

abbrev ComponentProbs := Vector UInt8 19

structure VectorProbs where
  row : ComponentProbs
  col : ComponentProbs
  deriving DecidableEq

namespace VectorProbs

def default : VectorProbs where
  row := #v[162, 128, 225, 146, 172, 147, 214, 39, 156, 128, 129, 132, 75, 145, 178, 206, 239, 254, 254]
  col := #v[164, 128, 204, 170, 119, 235, 140, 230, 228, 128, 130, 130, 74, 148, 180, 203, 236, 254, 254]

def unchanged : VectorProbs where
  row := #v[237, 246, 253, 253, 254, 254, 254, 254, 254, 254, 254, 254, 254, 254, 250, 250, 252, 254, 254]
  col := #v[231, 243, 245, 253, 254, 254, 254, 254, 254, 254, 254, 254, 254, 254, 251, 251, 254, 254, 254]

end VectorProbs

end Vp8
