import ExtendedPattern.Report

/-! The command line. -/

def main (args : List String) : IO Unit :=
  IO.print (String.ofList (ExtendedPattern.Report.ofArguments (args.map String.toList)))
