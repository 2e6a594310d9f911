import Silo.Basic
import Silo.Registry
import Silo.ForeignKeys
import Silo.Deletions
import Silo.Protected
import Silo.Fence
import Silo.FenceLaws
import Silo.Process
import Silo.Settings
import Silo.Modification
import Silo.Decorator
