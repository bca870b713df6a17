import DseAuth.Library.Machine
import DseAuth.Db.UserDAO
import DseAuth.Auth.TokenHandler
import DseAuth.Auth.Authenticators
import DseAuth.Resources.Handlers
import DseAuth.Service.Effects
import DseAuth.Service.Schedule
import DseAuth.Properties.Identity
import DseAuth.Properties.Privileges
import DseAuth.Properties.WriteBack
import DseAuth.Properties.Isolation
import DseAuth.Properties.Reports
import DseAuth.Properties.Validation
import DseAuth.Properties.Secrecy
import DseAuth.Db.MapUserDAO
import DseAuth.Properties.InMemory
import DseAuth.Properties.OneWinner
import DseAuth.Service.Twins
import DseAuth.Properties.Agreement
import DseAuth.Abstract.Account
import DseAuth.Properties.Refinement
import DseAuth.Properties.Linearization
import DseAuth.Properties.Confidentiality
import DseAuth.Properties.Sessions
import DseAuth.Properties.DebugMode
import DseAuth.Properties.SerialSignUps
import DseAuth.Properties.Atomicity
