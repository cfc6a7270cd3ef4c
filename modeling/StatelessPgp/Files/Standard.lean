import StatelessPgp.Files.Tree
import StatelessPgp.Text.Digits

/-!
# Standard entries

A system has entries of its own: directories, devices, and a directory that shows
the open descriptors of the running program by their numbers.  A descriptor that
is open on a file is shown as a link to it.
-/

namespace StatelessPgp
namespace FileTree

/-- The directories in which files can be made. -/
def standardDirectories : List String :=
  ["bin", "dev/pts", "dev/shm", "etc", "home", "lib", "mnt", "opt", "root", "run",
    "sbin", "srv", "sys", "tmp", "usr/bin", "usr/lib", "usr/local/bin", "var/tmp"]

def standardDevices : List String :=
  ["dev/full", "dev/null", "dev/random", "dev/tty", "dev/urandom", "dev/zero"]

/-- The names under which the descriptors are shown as well. -/
def standardLinks : List (String × String) :=
  [("dev/fd", "/proc/self/fd"), ("dev/stdin", "/proc/self/fd/0"),
    ("dev/stdout", "/proc/self/fd/1"), ("dev/stderr", "/proc/self/fd/2")]

def locationOf (path : String) : Location :=
  (Path.ofText path).names

/-- The directory that shows the open descriptors. -/
def descriptorDirectory : Location :=
  locationOf "proc/self/fd"

/-- The tree in which an entry shows a descriptor. -/
def showDescriptor (tree : FileTree) (number : Nat) (entry : Entry) : FileTree :=
  tree.set (descriptorDirectory ++ [Path.ofText (String.ofList (Text.digits number))])
    entry

/-- The standard entries.  The first three descriptors are open, and lead to no
file. -/
def standard : FileTree :=
  let tree := standardDirectories.foldl
    (fun tree path => tree.plant [] .directory (locationOf path)) empty
  let tree := standardDevices.foldl
    (fun tree path => tree.plant [] .device (locationOf path)) tree
  let tree := standardLinks.foldl
    (fun tree (path, target) =>
      tree.plant [] (.link (Path.ofText target)) (locationOf path)) tree
  let tree := ["proc", "proc/self", "proc/self/fd"].foldl
    (fun tree path => tree.plant [] .systemDirectory (locationOf path)) tree
  [0, 1, 2].foldl (fun tree number => tree.showDescriptor number .device) tree

/-- The tree in which a descriptor is open on the file at a location. -/
def openDescriptor (tree : FileTree) (number : Nat) (file : Location) : FileTree :=
  tree.showDescriptor number (.link (Path.ofLocation file))

end FileTree
end StatelessPgp
