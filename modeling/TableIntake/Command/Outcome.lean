import TableIntake.Upload.Loader

/-! # Outcomes of commands -/

namespace TableIntake

/-- Why a command stopped. Faults of no upload have their causes written out. -/
inductive Trouble where
  | upload (fault : UploadFault)
  | other (message : String) (causes : List String)
deriving DecidableEq, Repr

def Trouble.messages : Trouble → List String
  | .upload fault => fault.messages
  | .other message causes => message :: causes

structure Outcome where
  outputs : List String := []
  trouble : Option Trouble := none
  notices : List Notice := []

end TableIntake
