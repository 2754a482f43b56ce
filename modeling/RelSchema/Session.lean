import RelSchema.FileTree
import RelSchema.Machine

namespace RelSchema

structure Session where
  files : FileTree
  printed : String := ""
  complaints : String := ""
  notices : List Notice := []

namespace Session

def readFile (path : String) : StateM Session (Except FileError String) := do
  return (← get).files.read path

def writeFile (path text : String) : StateM Session (Except FileError Unit) := do
  match (← get).files.write path text with
  | .error e => return .error e
  | .ok files =>
    modify fun s => { s with files }
    return .ok ()

def machine : Machine (StateM Session) where
  readFile := readFile
  writeFile := writeFile
  print text := modify fun s => { s with printed := s.printed ++ text }
  complain text := modify fun s => { s with complaints := s.complaints ++ text }
  report notice := modify fun s => { s with notices := s.notices ++ [notice] }

end Session

end RelSchema
