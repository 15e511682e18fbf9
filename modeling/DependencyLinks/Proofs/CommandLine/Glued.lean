import DependencyLinks.Proofs.CommandLine.Name

/-! Values glued to the letter of a short option. The settings take such an argument for an option,
splitting a command line takes it for an unknown one; every other option is the same to both. -/

namespace DependencyLinks

open Settings

namespace Settings.Arguments

end Settings.Arguments

namespace Argument

open Arguments

end Argument

end DependencyLinks
