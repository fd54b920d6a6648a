/-!
# Channels and encodings

A sensing device offers logical *channels* (depth, color, a gyroscope …), and a frame of a channel
holds its data in an *encoding*. Each has a position (the order in which requests are sorted), a
lower-case name used in documents and a label used in messages.
-/

namespace Sensing

/-- A logical stream of frames. -/
inductive Channel where
  | any
  | depth
  | color
  | infrared
  | infrared2
  | fisheye
  | gyro
  | accel
  deriving DecidableEq, Repr, Inhabited

namespace Channel

def all : List Channel := [.any, .depth, .color, .infrared, .infrared2, .fisheye, .gyro, .accel]

/-- The channel's place in the sorting order. -/
def position : Channel → Nat
  | .any => 0
  | .depth => 1
  | .color => 2
  | .infrared => 3
  | .infrared2 => 4
  | .fisheye => 5
  | .gyro => 6
  | .accel => 7

/-- The name in documents. -/
def name : Channel → String
  | .any => "any"
  | .depth => "depth"
  | .color => "color"
  | .infrared => "infrared"
  | .infrared2 => "infrared2"
  | .fisheye => "fisheye"
  | .gyro => "gyro"
  | .accel => "accel"

/-- The name in messages. -/
def label : Channel → String
  | .any => "Any"
  | .depth => "Depth"
  | .color => "Color"
  | .infrared => "Infrared"
  | .infrared2 => "Infrared2"
  | .fisheye => "Fisheye"
  | .gyro => "Gyro"
  | .accel => "Accel"

/-- The channel of a document name. -/
def ofName? (s : String) : Option Channel := all.find? fun c => c.name == s

@[simp] theorem ofName?_name (c : Channel) : ofName? c.name = some c := by cases c <;> decide

theorem position_injective {c d : Channel} (h : c.position = d.position) : c = d := by
  revert h; cases c <;> cases d <;> decide

end Channel

/-- How the data of a frame is encoded; `any` stands for all of them in a request. -/
inductive Encoding where
  | any
  | z16
  | disparity16
  | yuyv
  | uyvy
  | rgb8
  | bgr8
  | rgba8
  | bgra8
  | y8
  | y16
  | raw16
  | motionRaw
  | motionData
  deriving DecidableEq, Repr, Inhabited

namespace Encoding

def all : List Encoding :=
  [.any, .z16, .disparity16, .yuyv, .uyvy, .rgb8, .bgr8, .rgba8, .bgra8, .y8, .y16, .raw16,
    .motionRaw, .motionData]

/-- The encoding's place in the sorting order. -/
def position : Encoding → Nat
  | .any => 0
  | .z16 => 1
  | .disparity16 => 2
  | .yuyv => 3
  | .uyvy => 4
  | .rgb8 => 5
  | .bgr8 => 6
  | .rgba8 => 7
  | .bgra8 => 8
  | .y8 => 9
  | .y16 => 10
  | .raw16 => 11
  | .motionRaw => 12
  | .motionData => 13

/-- The name in documents. -/
def name : Encoding → String
  | .any => "any"
  | .z16 => "z16"
  | .disparity16 => "disparity16"
  | .yuyv => "yuyv"
  | .uyvy => "uyvy"
  | .rgb8 => "rgb8"
  | .bgr8 => "bgr8"
  | .rgba8 => "rgba8"
  | .bgra8 => "bgra8"
  | .y8 => "y8"
  | .y16 => "y16"
  | .raw16 => "raw16"
  | .motionRaw => "motion_raw"
  | .motionData => "motion_data"

/-- The name in messages. -/
def label : Encoding → String
  | .any => "Any"
  | .z16 => "Z16"
  | .disparity16 => "Disparity16"
  | .yuyv => "Yuyv"
  | .uyvy => "Uyvy"
  | .rgb8 => "Rgb8"
  | .bgr8 => "Bgr8"
  | .rgba8 => "Rgba8"
  | .bgra8 => "Bgra8"
  | .y8 => "Y8"
  | .y16 => "Y16"
  | .raw16 => "Raw16"
  | .motionRaw => "MotionRaw"
  | .motionData => "MotionData"

/-- The encoding of a document name. -/
def ofName? (s : String) : Option Encoding := all.find? fun e => e.name == s

/-- Bytes of one decoded pixel; zero for an encoding whose pixels have no fixed size. -/
def bytesPerPixel : Encoding → Nat
  | .y8 => 1
  | .z16 | .disparity16 | .yuyv | .uyvy | .y16 | .raw16 => 2
  | .rgb8 | .bgr8 => 3
  | .rgba8 | .bgra8 => 4
  | .any | .motionRaw | .motionData => 0

@[simp] theorem ofName?_name (e : Encoding) : ofName? e.name = some e := by cases e <;> decide

theorem position_injective {e f : Encoding} (h : e.position = f.position) : e = f := by
  revert h; cases e <;> cases f <;> decide

end Encoding

end Sensing
