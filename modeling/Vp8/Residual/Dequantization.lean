import Vp8.Frame.Header
import Vp8.Residual.Block

/-!
Dequantization: the factors that a quantizer index stands for, by kind of block and with the
corrections of the frame, and the index that each segment uses.
-/
namespace Vp8

namespace Quantizer

def dcTable : Vector Int 128 := #v[
  4, 5, 6, 7, 8, 9, 10, 10, 11, 12, 13, 14, 15, 16, 17, 17, 18, 19, 20, 20, 21, 21, 22, 22, 23,
  23, 24, 25, 25, 26, 27, 28, 29, 30, 31, 32, 33, 34, 35, 36, 37, 37, 38, 39, 40, 41, 42, 43,
  44, 45, 46, 46, 47, 48, 49, 50, 51, 52, 53, 54, 55, 56, 57, 58, 59, 60, 61, 62, 63, 64, 65,
  66, 67, 68, 69, 70, 71, 72, 73, 74, 75, 76, 76, 77, 78, 79, 80, 81, 82, 83, 84, 85, 86, 87,
  88, 89, 91, 93, 95, 96, 98, 100, 101, 102, 104, 106, 108, 110, 112, 114, 116, 118, 122, 124,
  126, 128, 130, 132, 134, 136, 138, 140, 143, 145, 148, 151, 154, 157]

def acTable : Vector Int 128 := #v[
  4, 5, 6, 7, 8, 9, 10, 11, 12, 13, 14, 15, 16, 17, 18, 19, 20, 21, 22, 23, 24, 25, 26, 27, 28,
  29, 30, 31, 32, 33, 34, 35, 36, 37, 38, 39, 40, 41, 42, 43, 44, 45, 46, 47, 48, 49, 50, 51,
  52, 53, 54, 55, 56, 57, 58, 60, 62, 64, 66, 68, 70, 72, 74, 76, 78, 80, 82, 84, 86, 88, 90,
  92, 94, 96, 98, 100, 102, 104, 106, 108, 110, 112, 114, 116, 119, 122, 125, 128, 131, 134,
  137, 140, 143, 146, 149, 152, 155, 158, 161, 164, 167, 170, 173, 177, 181, 185, 189, 193,
  197, 201, 205, 209, 213, 217, 221, 225, 229, 234, 239, 245, 249, 254, 259, 264, 269, 274,
  279, 284]

def clampIndex (q : Int) : Fin 128 := ⟨min q.toNat 127, by omega⟩

def dc (q : Int) : Int := dcTable.get (clampIndex q)

def ac (q : Int) : Int := acTable.get (clampIndex q)

def segmentIndex (indices : QuantizerIndices) (seg : Segmentation) (id : Fin 4) : Int :=
  (clampIndex (seg.adjust indices.base (seg.quantizer.get id))).val

end Quantizer

structure Factors where
  luma : Block
  second : Block
  chroma : Block
  deriving DecidableEq

namespace Factors

def block (dc ac : Int) : Block := replaceAt (.replicate 16 ac) 0 dc

/-- Second-order factors are enlarged, those of chroma DC have an upper limit. -/
def ofIndex (index : Int) (indices : QuantizerIndices) : Factors :=
  let q : Int := (Quantizer.clampIndex index).val
  { luma := block (Quantizer.dc (q + indices.lumaDc)) (Quantizer.ac q)
    second := block (2 * Quantizer.dc (q + indices.secondDc))
      (max (Quantizer.ac (q + indices.secondAc) * 155 / 100) 8)
    chroma := block (min (Quantizer.dc (q + indices.chromaDc)) 132)
      (Quantizer.ac (q + indices.chromaAc)) }

def ofSegments (indices : QuantizerIndices) (seg : Segmentation) : Vector Factors 4 :=
  .ofFn fun id => ofIndex (Quantizer.segmentIndex indices seg id) indices

end Factors

def Block.dequantize (factors b : Block) : Block := Vector.zipWith (· * ·) b factors

end Vp8
