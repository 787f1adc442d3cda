/-!
# File faults

Why an operation on files fails.
-/

namespace ClusterCerts

inductive FileFault
  | notFound
  | notDirectory
  | isDirectory
  | alreadyExists
  | notEmpty
  | linkLoop
  | nameTooLong
  | nulInName
  | intoItself
  | notText
  | other (detail : String)
deriving DecidableEq, Repr

def FileFault.detail : FileFault → String
  | notFound => "No such file or directory (os error 2)"
  | notDirectory => "Not a directory (os error 20)"
  | isDirectory => "Is a directory (os error 21)"
  | alreadyExists => "File exists (os error 17)"
  | notEmpty => "Directory not empty (os error 39)"
  | linkLoop => "Too many levels of symbolic links (os error 40)"
  | nameTooLong => "File name too long (os error 36)"
  | nulInName => "file name contained an unexpected NUL byte"
  | intoItself => "Invalid argument (os error 22)"
  | notText => "stream did not contain valid UTF-8"
  | other detail => detail

end ClusterCerts
