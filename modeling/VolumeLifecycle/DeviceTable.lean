import VolumeLifecycle.Device
import VolumeLifecycle.Dict
import VolumeLifecycle.Volume

namespace VolumeLifecycle

/-- The devices of a node by serial number, and its mount table. -/
structure DeviceTable where
  devices : Dict Device := .empty
  mounts : List Mount := []

namespace DeviceTable

/-- The table with a device put in, in place of one with the same serial number. -/
def put (t : DeviceTable) (d : Device) : DeviceTable :=
  { t with devices := t.devices.insert d.serialNumber d }

def deviceOf (v : Volume) (state : DeviceState) : Device :=
  { serialNumber := v.serialNumber
    mpathName := "dm-" ++ v.serialNumber
    path := "/dev/mapper/mpath-" ++ v.serialNumber
    state }

def mountsOf (t : DeviceTable) (serialNumber : String) : List Mount :=
  t.mounts.filter fun m => m.device.serialNumber = serialNumber

def find? (t : DeviceTable) (v : Volume) : Option Device :=
  t.devices.get? v.serialNumber

def attach (t : DeviceTable) (volumes : List Volume) : List Device × DeviceTable :=
  let devices := volumes.map fun v => deviceOf v .attached
  (devices, devices.foldl put t)

/-- Mounts a device. The entry has its own copy of the device, which is mounted. -/
def mount (t : DeviceTable) (d : Device) (mountpoint : Path) : Mount × DeviceTable :=
  let entry : Mount := ⟨mountpoint, { d with state := .mounted }⟩
  (entry, { t with mounts := t.mounts ++ [entry] })

def attachAndMount (t : DeviceTable) (v : Volume) (mountpoint : Path) : Mount × DeviceTable :=
  let device := deviceOf v .mounted
  (t.put device).mount device mountpoint

def unmount (t : DeviceTable) (v : Volume) : DeviceTable :=
  { t with mounts := t.mounts.filter fun m => m.device.serialNumber ≠ v.serialNumber }

/-- The table without the mounts at a path, which has to be written as in the table. -/
def unmountAt (t : DeviceTable) (mountpoint : Path) : DeviceTable :=
  { t with mounts := t.mounts.filter fun m => m.mountpoint ≠ mountpoint }

def delete (t : DeviceTable) (d : Device) : DeviceTable :=
  { t with devices := t.devices.erase d.serialNumber }

end DeviceTable
end VolumeLifecycle
