/-!
# Information fields

Fixed facts about a device that an endpoint may tell: its name, its serial number …
-/

namespace Sensing

/-- Which fact; the constructors are in sorting order. -/
inductive InfoField where
  | name
  | serialNumber
  | firmwareVersion
  | location
  | debugOpCode
  | advancedMode
  | productId
  | cameraLocked
  | usbTypeDescriptor
  | physicalPort
  deriving DecidableEq, Repr, Inhabited

namespace InfoField

def all : List InfoField :=
  [.name, .serialNumber, .firmwareVersion, .location, .debugOpCode, .advancedMode, .productId,
    .cameraLocked, .usbTypeDescriptor, .physicalPort]

/-- The field's place in the sorting order. -/
def position (f : InfoField) : Nat := all.idxOf f

/-- The name in documents. -/
def key : InfoField → String
  | .name => "name"
  | .serialNumber => "serial_number"
  | .firmwareVersion => "firmware_version"
  | .location => "location"
  | .debugOpCode => "debug_op_code"
  | .advancedMode => "advanced_mode"
  | .productId => "product_id"
  | .cameraLocked => "camera_locked"
  | .usbTypeDescriptor => "usb_type_descriptor"
  | .physicalPort => "physical_port"

/-- The name in messages. -/
def label : InfoField → String
  | .name => "Name"
  | .serialNumber => "SerialNumber"
  | .firmwareVersion => "FirmwareVersion"
  | .location => "Location"
  | .debugOpCode => "DebugOpCode"
  | .advancedMode => "AdvancedMode"
  | .productId => "ProductId"
  | .cameraLocked => "CameraLocked"
  | .usbTypeDescriptor => "UsbTypeDescriptor"
  | .physicalPort => "PhysicalPort"

/-- The field of a document name. -/
def ofKey? (s : String) : Option InfoField := all.find? fun f => f.key == s

@[simp] theorem ofKey?_key (f : InfoField) : ofKey? f.key = some f := by cases f <;> decide

end InfoField

end Sensing
