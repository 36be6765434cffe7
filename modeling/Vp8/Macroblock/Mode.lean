import Vp8.Entropy.Tree

/-!
Prediction modes of macroblocks and of their sixteen 4x4 sub-blocks, the references they predict
from, and the codes of all of these.
-/
namespace Vp8

inductive Mode where
  | dc
  | vertical
  | horizontal
  | trueMotion
  | subblocks
  | nearest
  | near
  | zero
  | new
  | split
  deriving DecidableEq, Repr

inductive SubblockMode where
  | dc
  | trueMotion
  | vertical
  | horizontal
  | downLeft
  | downRight
  | verticalRight
  | verticalLeft
  | horizontalDown
  | horizontalUp
  deriving DecidableEq, Repr

inductive Reference where
  | current
  | last
  | golden
  | altref
  deriving DecidableEq, Repr

def Reference.index : Reference → Fin 4
  | current => 0
  | last => 1
  | golden => 2
  | altref => 3

namespace Mode

def ofIntraLeaf : Nat → Mode
  | 0 => dc
  | 1 => vertical
  | 2 => horizontal
  | 3 => trueMotion
  | _ => subblocks

def ofInterLeaf : Nat → Mode
  | 0 => zero
  | 1 => nearest
  | 2 => near
  | 3 => new
  | _ => split

def isInter : Mode → Bool
  | nearest | near | zero | new | split => true
  | _ => false

/-- Prediction goes sub-block by sub-block, and luma blocks carry their own DC: there is no
    second-order block. -/
def bySubblock : Mode → Bool
  | subblocks | split => true
  | _ => false

def hasSecondOrder (m : Mode) : Bool := !m.bySubblock

/-- What a neighbour with sub-blocks takes a whole-macroblock mode for. -/
def impliedSubblockMode : Mode → SubblockMode
  | vertical => .vertical
  | horizontal => .horizontal
  | trueMotion => .trueMotion
  | _ => .dc

def keyframeTree : CodeTree := ⟨#[-4, 2, 4, 6, 0, -1, -2, -3]⟩

def intraTree : CodeTree := ⟨#[0, 2, 4, 6, -1, -2, -3, -4]⟩

def chromaTree : CodeTree := ⟨#[0, 2, -1, 4, -2, -3]⟩

def interTree : CodeTree := ⟨#[0, 2, -1, 4, -2, 6, -3, -4]⟩

def keyframeProbs : Vector UInt8 4 := #v[145, 156, 163, 128]

def keyframeChromaProbs : Vector UInt8 3 := #v[142, 114, 183]

end Mode

namespace SubblockMode

def all : Vector SubblockMode 10 :=
  #v[dc, trueMotion, vertical, horizontal, downLeft, downRight, verticalRight, verticalLeft,
    horizontalDown, horizontalUp]

def index : SubblockMode → Fin 10
  | dc => 0
  | trueMotion => 1
  | vertical => 2
  | horizontal => 3
  | downLeft => 4
  | downRight => 5
  | verticalRight => 6
  | verticalLeft => 7
  | horizontalDown => 8
  | horizontalUp => 9

def ofLeaf (leaf : Nat) : SubblockMode := all[leaf % 10]

def tree : CodeTree :=
  ⟨#[0, 2, -1, 4, -2, 6, 8, 12, -3, 10, -5, -6, -4, 14, -7, 16, -8, -9]⟩

def interProbs : Vector UInt8 9 := #v[120, 90, 79, 133, 87, 85, 80, 111, 151]

def keyframeProbs : Vector (Vector (Vector UInt8 9) 10) 10 := #v[
  #v[
    #v[231, 120, 48, 89, 115, 113, 120, 152, 112],
    #v[152, 179, 64, 126, 170, 118, 46, 70, 95],
    #v[175, 69, 143, 80, 85, 82, 72, 155, 103],
    #v[56, 58, 10, 171, 218, 189, 17, 13, 152],
    #v[144, 71, 10, 38, 171, 213, 144, 34, 26],
    #v[114, 26, 17, 163, 44, 195, 21, 10, 173],
    #v[121, 24, 80, 195, 26, 62, 44, 64, 85],
    #v[170, 46, 55, 19, 136, 160, 33, 206, 71],
    #v[63, 20, 8, 114, 114, 208, 12, 9, 226],
    #v[81, 40, 11, 96, 182, 84, 29, 16, 36]],
  #v[
    #v[134, 183, 89, 137, 98, 101, 106, 165, 148],
    #v[72, 187, 100, 130, 157, 111, 32, 75, 80],
    #v[66, 102, 167, 99, 74, 62, 40, 234, 128],
    #v[41, 53, 9, 178, 241, 141, 26, 8, 107],
    #v[104, 79, 12, 27, 217, 255, 87, 17, 7],
    #v[74, 43, 26, 146, 73, 166, 49, 23, 157],
    #v[65, 38, 105, 160, 51, 52, 31, 115, 128],
    #v[87, 68, 71, 44, 114, 51, 15, 186, 23],
    #v[47, 41, 14, 110, 182, 183, 21, 17, 194],
    #v[66, 45, 25, 102, 197, 189, 23, 18, 22]],
  #v[
    #v[88, 88, 147, 150, 42, 46, 45, 196, 205],
    #v[43, 97, 183, 117, 85, 38, 35, 179, 61],
    #v[39, 53, 200, 87, 26, 21, 43, 232, 171],
    #v[56, 34, 51, 104, 114, 102, 29, 93, 77],
    #v[107, 54, 32, 26, 51, 1, 81, 43, 31],
    #v[39, 28, 85, 171, 58, 165, 90, 98, 64],
    #v[34, 22, 116, 206, 23, 34, 43, 166, 73],
    #v[68, 25, 106, 22, 64, 171, 36, 225, 114],
    #v[34, 19, 21, 102, 132, 188, 16, 76, 124],
    #v[62, 18, 78, 95, 85, 57, 50, 48, 51]],
  #v[
    #v[193, 101, 35, 159, 215, 111, 89, 46, 111],
    #v[60, 148, 31, 172, 219, 228, 21, 18, 111],
    #v[112, 113, 77, 85, 179, 255, 38, 120, 114],
    #v[40, 42, 1, 196, 245, 209, 10, 25, 109],
    #v[100, 80, 8, 43, 154, 1, 51, 26, 71],
    #v[88, 43, 29, 140, 166, 213, 37, 43, 154],
    #v[61, 63, 30, 155, 67, 45, 68, 1, 209],
    #v[142, 78, 78, 16, 255, 128, 34, 197, 171],
    #v[41, 40, 5, 102, 211, 183, 4, 1, 221],
    #v[51, 50, 17, 168, 209, 192, 23, 25, 82]],
  #v[
    #v[125, 98, 42, 88, 104, 85, 117, 175, 82],
    #v[95, 84, 53, 89, 128, 100, 113, 101, 45],
    #v[75, 79, 123, 47, 51, 128, 81, 171, 1],
    #v[57, 17, 5, 71, 102, 57, 53, 41, 49],
    #v[115, 21, 2, 10, 102, 255, 166, 23, 6],
    #v[38, 33, 13, 121, 57, 73, 26, 1, 85],
    #v[41, 10, 67, 138, 77, 110, 90, 47, 114],
    #v[101, 29, 16, 10, 85, 128, 101, 196, 26],
    #v[57, 18, 10, 102, 102, 213, 34, 20, 43],
    #v[117, 20, 15, 36, 163, 128, 68, 1, 26]],
  #v[
    #v[138, 31, 36, 171, 27, 166, 38, 44, 229],
    #v[67, 87, 58, 169, 82, 115, 26, 59, 179],
    #v[63, 59, 90, 180, 59, 166, 93, 73, 154],
    #v[40, 40, 21, 116, 143, 209, 34, 39, 175],
    #v[57, 46, 22, 24, 128, 1, 54, 17, 37],
    #v[47, 15, 16, 183, 34, 223, 49, 45, 183],
    #v[46, 17, 33, 183, 6, 98, 15, 32, 183],
    #v[65, 32, 73, 115, 28, 128, 23, 128, 205],
    #v[40, 3, 9, 115, 51, 192, 18, 6, 223],
    #v[87, 37, 9, 115, 59, 77, 64, 21, 47]],
  #v[
    #v[104, 55, 44, 218, 9, 54, 53, 130, 226],
    #v[64, 90, 70, 205, 40, 41, 23, 26, 57],
    #v[54, 57, 112, 184, 5, 41, 38, 166, 213],
    #v[30, 34, 26, 133, 152, 116, 10, 32, 134],
    #v[75, 32, 12, 51, 192, 255, 160, 43, 51],
    #v[39, 19, 53, 221, 26, 114, 32, 73, 255],
    #v[31, 9, 65, 234, 2, 15, 1, 118, 73],
    #v[88, 31, 35, 67, 102, 85, 55, 186, 85],
    #v[56, 21, 23, 111, 59, 205, 45, 37, 192],
    #v[55, 38, 70, 124, 73, 102, 1, 34, 98]],
  #v[
    #v[102, 61, 71, 37, 34, 53, 31, 243, 192],
    #v[69, 60, 71, 38, 73, 119, 28, 222, 37],
    #v[68, 45, 128, 34, 1, 47, 11, 245, 171],
    #v[62, 17, 19, 70, 146, 85, 55, 62, 70],
    #v[75, 15, 9, 9, 64, 255, 184, 119, 16],
    #v[37, 43, 37, 154, 100, 163, 85, 160, 1],
    #v[63, 9, 92, 136, 28, 64, 32, 201, 85],
    #v[86, 6, 28, 5, 64, 255, 25, 248, 1],
    #v[56, 8, 17, 132, 137, 255, 55, 116, 128],
    #v[58, 15, 20, 82, 135, 57, 26, 121, 40]],
  #v[
    #v[164, 50, 31, 137, 154, 133, 25, 35, 218],
    #v[51, 103, 44, 131, 131, 123, 31, 6, 158],
    #v[86, 40, 64, 135, 148, 224, 45, 183, 128],
    #v[22, 26, 17, 131, 240, 154, 14, 1, 209],
    #v[83, 12, 13, 54, 192, 255, 68, 47, 28],
    #v[45, 16, 21, 91, 64, 222, 7, 1, 197],
    #v[56, 21, 39, 155, 60, 138, 23, 102, 213],
    #v[85, 26, 85, 85, 128, 128, 32, 146, 171],
    #v[18, 11, 7, 63, 144, 171, 4, 4, 246],
    #v[35, 27, 10, 146, 174, 171, 12, 26, 128]],
  #v[
    #v[190, 80, 35, 99, 180, 80, 126, 54, 45],
    #v[85, 126, 47, 87, 176, 51, 41, 20, 32],
    #v[101, 75, 128, 139, 118, 146, 116, 128, 85],
    #v[56, 41, 15, 176, 236, 85, 37, 9, 62],
    #v[146, 36, 19, 30, 171, 255, 97, 27, 20],
    #v[71, 30, 17, 119, 118, 255, 17, 18, 138],
    #v[101, 38, 60, 138, 55, 70, 43, 26, 142],
    #v[138, 45, 61, 62, 219, 1, 81, 188, 64],
    #v[32, 41, 20, 117, 151, 142, 20, 21, 163],
    #v[112, 19, 12, 61, 195, 128, 48, 4, 24]]]

end SubblockMode

end Vp8
