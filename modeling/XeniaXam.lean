import XeniaXam.Xdbf.Bytes
import XeniaXam.Xdbf.Headers
import XeniaXam.Xdbf.TitlePlayed
import XeniaXam.Xdbf.Achievement
import XeniaXam.Xdbf.Setting
import XeniaXam.Xdbf.Bounds
import XeniaXam.Kernel.Shim
import XeniaXam.Ui.Keyboard
import XeniaXam.Content.Device
import XeniaXam.Content.Package
import XeniaXam.Content.Enumerator
import XeniaXam.Ui.Dialogs
import XeniaXam.Ui.Prompts
import XeniaXam.Ui.Active
import XeniaXam.Misc.TitleId
