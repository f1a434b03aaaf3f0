import VolumeLifecycle.Device
import VolumeLifecycle.FileTree
import VolumeLifecycle.Provider.Message

namespace VolumeLifecycle

/-- A call to one of the two collaborators, the storage provider and the device manager. -/
inductive Call where
  | provider (op : Provider.Op) (request : Provider.Request)
  /-- The mount-table entries of a serial number. -/
  | getMounts (serialNumber : String)
  /-- Attaches volumes and answers their devices. -/
  | attachDevice (volumes : List Volume)
  /-- Attaches a volume and mounts the filesystem that it has. -/
  | attachAndMountDevice (volume : Volume) (mountpoint : Path)
  /-- Mounts a device that is attached and has a filesystem. -/
  | mountDevice (device : Device) (mountpoint : Path)
  /-- Creates a filesystem with the mode and owner of its volume. -/
  | setupFilesystem (device : Device) (volume : Volume) (filesystem : String)
  /-- Unmounts every mount of a volume's device. -/
  | unmountDevice (volume : Volume)
  /-- Unmounts a single entry of the mount table. -/
  | unmountFileSystem (mountpoint : Path)
  | offlineDevice (device : Device)
  | deleteDevice (device : Device)
  /-- The local device of a volume, if it is attached. -/
  | getDevice (volume : Volume)

namespace Call

inductive Kind where
  | provider (op : Provider.Op)
  | getMounts
  | attachDevice
  | attachAndMountDevice
  | mountDevice
  | setupFilesystem
  | unmountDevice
  | unmountFileSystem
  | offlineDevice
  | deleteDevice
  | getDevice
  deriving DecidableEq

def Kind.Answer : Kind → Type
  | provider _ => Provider.Response
  | getMounts => List Mount
  | attachDevice => List Device
  | attachAndMountDevice => Mount
  | mountDevice => Mount
  | setupFilesystem => Unit
  | unmountDevice => Unit
  | unmountFileSystem => Unit
  | offlineDevice => Unit
  | deleteDevice => Unit
  | getDevice => Option Device

def kind : Call → Kind
  | provider op _ => .provider op
  | getMounts _ => .getMounts
  | attachDevice _ => .attachDevice
  | attachAndMountDevice _ _ => .attachAndMountDevice
  | mountDevice _ _ => .mountDevice
  | setupFilesystem _ _ _ => .setupFilesystem
  | unmountDevice _ => .unmountDevice
  | unmountFileSystem _ => .unmountFileSystem
  | offlineDevice _ => .offlineDevice
  | deleteDevice _ => .deleteDevice
  | getDevice _ => .getDevice

abbrev Answer (c : Call) : Type := c.kind.Answer

abbrev Reply (c : Call) : Type := Except Failure c.Answer

end Call

/-- Something that a workflow asks of its surroundings: a call to a collaborator, the description of
this node, the clock, or the removal of a directory. -/
inductive Effect where
  | call (c : Call)
  /-- The description of this node. -/
  | describeHost
  /-- The time, in milliseconds. -/
  | now
  /-- Waits so many milliseconds. -/
  | sleep (duration : Nat)
  /-- Removes an empty directory. -/
  | removeDirectory (path : Path)

def Effect.Reply : Effect → Type
  | call c => c.Reply
  | describeHost => Except Failure Host
  | now => Nat
  | sleep _ => Unit
  | removeDirectory _ => Except FileError Unit

end VolumeLifecycle
